import ChainHost.Proofs.Json.Tokens
import ChainHost.Proofs.Json.Typed

namespace ChainHost.Json

section Holding

mutual

-- A node that holds a tree, wherever the parts of the tree stand.
inductive Node.Holds : Node → Tree → Prop
  | null (span : Span) : Node.Holds (.null span) .null
  | bool (span : Span) (b : Bool) : Node.Holds (.bool span b) (.bool b)
  | number (span : Span) (n : Numeral) :
    Node.Holds (.number span (numberAt span.stop n)) (.number n)
  | string (span : Span) (s : String) : Node.Holds (.string span (.ok s)) (.string s)
  | array {items ts} (start : Nat) (h : Items.Hold items ts) :
    Node.Holds (.array start items) (.array ts)
  | object {members ms} (start : Nat) (h : Members.Hold members ms) :
    Node.Holds (.object start members) (.object ms)

inductive Items.Hold : Items → List Tree → Prop
  | ended (offset : Nat) : Items.Hold (.ended offset (some ']')) []
  | item {node t rest ts} (h : Node.Holds node t) (hr : Items.Hold rest ts) :
    Items.Hold (.item node rest) (t :: ts)

inductive Members.Hold : Members → List (String × Tree) → Prop
  | ended (offset : Nat) : Members.Hold (.ended offset (some '}')) []
  | member {node t rest ms} (span : Span) (key : String) (colon after : Nat) (h : Node.Holds node t)
      (hr : Members.Hold rest ms) :
    Members.Hold (.member (.string span (.ok key)) colon node after rest) ((key, t) :: ms)

end

end Holding

section Complete

theorem readNode_numeral {n : Numeral} {cs rest : List Char} (h : n.Begins cs rest)
    (hr : EndsNumeral rest) (fuel offset : Nat) :
    ∃ stop, readNode (fuel + 1) ⟨offset, cs⟩ =
      (.number ⟨offset, stop⟩ (numberAt stop n), some ⟨stop, rest⟩) := by
  cases h
  case negative cs hn h =>
    obtain ⟨stop, h⟩ := h.readNumeral_eq hr (offset + 1)
    rw [hn] at h
    exact ⟨stop, by simp only [readNode, numberNode, h]⟩
  case positive hn h =>
    obtain ⟨stop, hread⟩ := h.readNumeral_eq hr offset
    obtain ⟨_, _, hw, _, _⟩ := h
    obtain ⟨d, ds, rfl, hd⟩ := hw.toDigits.head
    rw [hn] at hread
    exact ⟨stop, by rw [readNode_digit hd]; simp only [numberNode, hread]⟩

theorem readNode_quoted {s cs rest : List Char} (h : Quoted s cs rest) (fuel offset : Nat) :
    ∃ span stop, readNode (fuel + 1) ⟨offset, '"' :: cs⟩ =
      (.string span (.ok (String.ofList s)), some ⟨stop, rest⟩) := by
  obtain ⟨⟨_, ht⟩, s', stop, hf⟩ := h.readText_eq (offset + 1)
  exists ⟨offset, stop⟩, stop
  simp only [readNode, stringNode, hf, ht, Except.map]

theorem Opens.readItems_eq {cs : List Char} (h : Opens cs) (fuel offset : Nat) :
    readItems (fuel + 1) ⟨offset, cs⟩ = readItem fuel ⟨offset, cs⟩ := by
  obtain ⟨c, cs', rfl, _, hc⟩ := h
  rw [readItems]
  simp [hc]

theorem readMembers_quote (fuel offset : Nat) (cs : List Char) :
    readMembers (fuel + 1) ⟨offset, '"' :: cs⟩ = readMember fuel ⟨offset, '"' :: cs⟩ := by
  rw [readMembers]
  simp

theorem endsNumeral_cons {c : Char} (h : c = ',' ∨ c = ']' ∨ c = '}') (rest : List Char) :
    EndsNumeral (c :: rest) := by
  intro c' hc
  cases hc
  rcases h with rfl | rfl | rfl <;> decide

mutual

-- What the grammar derives is read as a node that holds the tree. Three steps for each character
-- are enough.
theorem Tree.Begins.readNode_eq {t : Tree} {cs rest : List Char} (h : t.Begins cs rest) (fuel : Nat)
    (hf : 3 * cs.length ≤ fuel) (hr : EndsNumeral rest) (offset : Nat) :
    ∃ node stop, readNode fuel ⟨offset, cs⟩ = (node, some ⟨stop, rest⟩) ∧ node.Holds t := by
  obtain ⟨fuel, he⟩ : ∃ f, fuel = f + 2 := ⟨fuel - 2, by have := h.length_lt; omega⟩
  subst he
  match h with
  | .null  => exact ⟨_, _, rfl, .null _⟩
  | .yes   => exact ⟨_, _, rfl, .bool _ _⟩
  | .no    => exact ⟨_, _, rfl, .bool _ _⟩
  | .number h =>
    obtain ⟨stop, h⟩ := readNode_numeral h hr (fuel + 1) offset
    exact ⟨_, stop, h, .number _ _⟩
  | .string h =>
    obtain ⟨span, stop, h⟩ := readNode_quoted h (fuel + 1) offset
    exact ⟨_, stop, h, .string span _⟩
  | .empty hb =>
    obtain ⟨o, hb⟩ := hb.skipSpaces_eq (by decide) (offset + 1)
    refine ⟨_, o + 1, ?_, .array offset (.ended o)⟩
    simp only [readNode, hb, readItems]
  | .bare hb =>
    obtain ⟨o, hb⟩ := hb.skipSpaces_eq (by decide) (offset + 1)
    refine ⟨_, o + 1, ?_, .object offset (.ended o)⟩
    simp only [readNode, hb, readMembers]
  | .array hb h =>
    obtain ⟨o, hs⟩ := h.opens.skipSpaces_eq hb (offset + 1)
    have hl := hb.length_le
    obtain ⟨items, stop, hi, hts⟩ := h.readItem_eq fuel (by simp at *; omega) o
    refine ⟨_, stop, ?_, .array offset hts⟩
    simp only [readNode, hs, h.opens.readItems_eq, hi]
  | .object hb h =>
    obtain ⟨cs', rfl⟩ := h.head
    obtain ⟨o, hs⟩ := hb.skipSpaces_eq (by decide) (offset + 1)
    have hl := hb.length_le
    obtain ⟨members, stop, h, hm⟩ := h.readMember_eq fuel (by simp at *; omega) o
    refine ⟨_, stop, ?_, .object offset hm⟩
    simp only [readNode, hs, readMembers_quote, h]

theorem Items.Begin.readItem_eq {ts : List Tree} {cs rest : List Char} (h : Items.Begin ts cs rest)
    (fuel : Nat) (hf : 3 * cs.length < fuel) (offset : Nat) :
    ∃ items stop, readItem fuel ⟨offset, cs⟩ = (items, some ⟨stop, rest⟩) ∧ items.Hold ts := by
  obtain ⟨fuel, he⟩ : ∃ f, fuel = f + 1 := ⟨fuel - 1, by omega⟩
  subst he
  match h with
  | .last h hb =>
    have hr := hb.endsNumeral (endsNumeral_cons (by simp) _)
    obtain ⟨node, o, h, hn⟩ := h.readNode_eq fuel (by omega) hr offset
    obtain ⟨o', hb⟩ := hb.skipSpaces_eq (by decide) o
    refine ⟨_, o' + 1, ?_, .item hn (.ended o')⟩
    simp only [readItem, h, hb]
  | .cons h hb hb' hi =>
    have hl := h.length_lt
    have hl' := hb.length_le.trans' (Nat.succ_le_succ hb'.length_le)
    have hr := hb.endsNumeral (endsNumeral_cons (by simp) _)
    obtain ⟨node, o, h, hn⟩ := h.readNode_eq fuel (by omega) hr offset
    obtain ⟨o', hb⟩ := hb.skipSpaces_eq (by decide) o
    obtain ⟨o₁, hb'⟩ := hi.opens.skipSpaces_eq hb' (o' + 1)
    obtain ⟨items, stop, hi, hit⟩ := hi.readItem_eq fuel (by omega) o₁
    refine ⟨_, stop, ?_, .item hn hit⟩
    simp only [readItem, h, hb, hb', hi]

-- The steps in which a member is read, up to what follows its value.
theorem Member.Begins.reads {m : String × Tree} {cs rest : List Char} (h : Member.Begins m cs rest)
    (fuel : Nat) (hf : 3 * cs.length ≤ fuel) (hr : EndsNumeral rest) (offset : Nat) :
    ∃ span cs₁ cs₂ cs₃ o₁ o₂ o₃ stop node,
      readNode fuel ⟨offset, cs⟩ = (.string span (.ok m.1), some ⟨o₁, cs₁⟩) ∧
      Cursor.skipSpaces ⟨o₁, cs₁⟩ = ⟨o₂, ':' :: cs₂⟩ ∧
      Cursor.skipSpaces ⟨o₂ + 1, cs₂⟩ = ⟨o₃, cs₃⟩ ∧
      readNode fuel ⟨o₃, cs₃⟩ = (node, some ⟨stop, rest⟩) ∧ node.Holds m.2 := by
  obtain ⟨fuel, he⟩ : ∃ f, fuel = f + 1 := ⟨fuel - 1, by have := h.length_lt; omega⟩
  subst he
  match h with
  | .intro hk hb hb' h =>
    have hl := hk.length_lt
    have hl' := hb.length_le.trans' (Nat.succ_le_succ hb'.length_le)
    obtain ⟨span, o₁, hk⟩ := readNode_quoted hk fuel offset
    obtain ⟨o₂, hb⟩ := hb.skipSpaces_eq (by decide) o₁
    obtain ⟨o₃, hb'⟩ := h.opens.skipSpaces_eq hb' (o₂ + 1)
    obtain ⟨node, stop, h, hn⟩ := h.readNode_eq (fuel + 1) (by simp at *; omega) hr o₃
    exact ⟨span, _, _, _, o₁, o₂, o₃, stop, node, hk, hb, hb', h, hn⟩

theorem Members.Begin.readMember_eq {ms : List (String × Tree)} {cs rest : List Char}
    (h : Members.Begin ms cs rest) (fuel : Nat) (hf : 3 * cs.length < fuel) (offset : Nat) :
    ∃ members stop, readMember fuel ⟨offset, cs⟩ = (members, some ⟨stop, rest⟩) ∧
      members.Hold ms := by
  obtain ⟨fuel, he⟩ : ∃ f, fuel = f + 1 := ⟨fuel - 1, by omega⟩
  subst he
  match h with
  | .last h hb =>
    have hr := hb.endsNumeral (endsNumeral_cons (by simp) _)
    obtain ⟨span, _, _, _, o₁, o₂, o₃, o, node, hk, hc, hs, h, hn⟩ :=
      h.reads fuel (by omega) hr offset
    obtain ⟨o', hb⟩ := hb.skipSpaces_eq (by decide) o
    refine ⟨_, o' + 1, ?_, .member span _ o₂ o' hn (.ended o')⟩
    simp only [readMember, hk, hc, hs, h, hb]
  | .cons h hb hb' hm =>
    have hl := h.length_lt
    have hl' := hb.length_le.trans' (Nat.succ_le_succ hb'.length_le)
    have hr := hb.endsNumeral (endsNumeral_cons (by simp) _)
    obtain ⟨span, _, _, _, o₁, o₂, o₃, o, node, hk, hc, hs, h, hn⟩ :=
      h.reads fuel (by omega) hr offset
    obtain ⟨o', hb⟩ := hb.skipSpaces_eq (by decide) o
    obtain ⟨cs', rfl⟩ := hm.head
    obtain ⟨o₄, hb'⟩ := hb'.skipSpaces_eq (by decide) (o' + 1)
    obtain ⟨members, stop, hm, hms⟩ := hm.readMember_eq fuel (by omega) o₄
    refine ⟨_, stop, ?_, .member span _ o₂ o' hn hms⟩
    simp only [readMember, hk, hc, hs, h, hb, hb', hm]

end

end Complete

section Sound

theorem readWord_eq_ok {word : List Char} {c c' : Cursor} (h : readWord word c = .ok c') :
    c.rest = word ++ c'.rest := by
  induction word generalizing c
  case nil => cases h; rfl
  case cons w ws hi =>
    obtain ⟨offset, cs⟩ := c
    cases cs
    case nil => cases h
    case cons d ds =>
      rw [readWord] at h
      split at h
      case isFalse     => cases h
      case isTrue hd => rw [hd, List.cons_append, ← hi h]

theorem blanks_skipSpaces (c : Cursor) : Blanks c.rest c.skipSpaces.rest :=
  blanks_dropWhile c.rest

theorem Cursor.rest_of_next {c : Cursor} {d : Char} (h : c.next = some d) :
    ∃ cs, c.rest = d :: cs := by
  obtain ⟨offset, cs⟩ := c
  cases cs <;> cases h
  exact ⟨_, rfl⟩

theorem Node.value_broken {start : Nat} {lead : Option Char} {strict skim : Fault} {room : Nat}
    {v : Value} : (Node.broken start lead strict skim).value room ≠ .ok v := by
  cases room <;> nofun

theorem wordNode_holds {c : Cursor} {cs tail : List Char} {make : Span → Node} {node : Node}
    {after : Option Cursor} (h : wordNode c cs tail make = (node, after)) {room : Nat} {v : Value}
    (hv : node.value room = .ok v) :
    ∃ span c', node = make span ∧ after = some c' ∧ cs = tail ++ c'.rest := by
  unfold wordNode at h
  split at h <;> cases h
  case h_1 c' hc => exact ⟨_, c', rfl, rfl, readWord_eq_ok hc⟩
  case h_2       => exact absurd hv Node.value_broken

theorem numberNode_holds {c digits : Cursor} {negative : Bool} {node : Node} {after : Option Cursor}
    (h : numberNode c negative digits = (node, after)) {room : Nat} {v : Value}
    (hv : node.value room = .ok v) :
    ∃ n c', after = some c' ∧ node.Holds (.number n) ∧ n.negative = negative ∧
      n.Follows digits.rest c'.rest := by
  unfold numberNode at h
  split at h <;> cases h
  case h_2         => exact absurd hv Node.value_broken
  case h_1 n c' hn =>
    obtain ⟨hs, hf⟩ := follows_of_readNumeral hn
    exact ⟨n, c', rfl, .number ⟨c.offset, c'.offset⟩ n, hs, hf⟩

theorem stringNode_holds {c : Cursor} {cs : List Char} {node : Node} {after : Option Cursor}
    (h : stringNode c cs = (node, after)) {room : Nat} {v : Value} (hv : node.value room = .ok v) :
    ∃ s c', after = some c' ∧ node.Holds (.string (String.ofList s)) ∧ Quoted s cs c'.rest := by
  unfold stringNode at h
  dsimp only at h
  split at h <;> cases h
  case h_2          => exact absurd hv Node.value_broken
  case h_1 _ c' hf =>
    rw [Node.value_string] at hv
    obtain ⟨_, hs, _⟩ := map_eq_ok_iff.1 hv
    obtain ⟨⟨s, c₁⟩, ht, _⟩ := map_eq_ok_iff.1 hs
    have hq := quoted_of_readText ht
    obtain ⟨_, _, hf'⟩ := (hq.readText_eq (c.offset + 1)).2
    rw [hf'] at hf
    cases hf
    refine ⟨s, _, rfl, ?_, hq⟩
    rw [ht]
    exact .string _ _

theorem listEnd_next {offset : Nat} {next : Option Char} {u : Unit}
    (h : listEnd offset next = .ok u) : next = some ']' := by
  unfold listEnd at h
  split at h <;> cases h
  rfl

theorem objectEnd_next {offset : Nat} {next : Option Char} {u : Unit}
    (h : objectEnd offset next = .ok u) : next = some '}' := by
  unfold objectEnd at h
  split at h <;> cases h
  rfl

theorem Node.values_array {start : Nat} {items : Items} {room : Nat} {v : Value}
    (h : (Node.array start items).value room = .ok v) : ∃ room' vs, items.values room' = .ok vs := by
  cases room
  case zero => cases h
  case succ room =>
    obtain ⟨vs, hvs, _⟩ := map_eq_ok_iff.1 h
    exact ⟨room, vs, hvs⟩

theorem Node.values_object {start : Nat} {members : Members} {room : Nat} {v : Value}
    (h : (Node.object start members).value room = .ok v) :
    ∃ room' ms, members.values room' = .ok ms := by
  cases room
  case zero => cases h
  case succ room =>
    obtain ⟨ms, hms, _⟩ := map_eq_ok_iff.1 h
    exact ⟨room, ms, hms⟩

theorem Items.values_item {node : Node} {rest : Items} {room : Nat} {vs : List Value}
    (h : (Items.item node rest).values room = .ok vs) :
    (∃ v, node.value room = .ok v) ∧ ∃ vs', rest.values room = .ok vs' := by
  simp only [Items.values] at h
  split at h
  case h_1 => cases h
  case h_2 =>
    obtain ⟨v, hv, h⟩ := bind_eq_ok_iff.1 h
    obtain ⟨vs', hvs, _⟩ := bind_eq_ok_iff.1 h
    exact ⟨⟨v, hv⟩, vs', hvs⟩

theorem Members.values_bare {key : Node} {offset : Nat} {next : Option Char} {room : Nat}
    {ms : List (String × Value)} : (Members.bare key offset next).values room ≠ .ok ms := by
  intro h
  obtain ⟨_, _, h⟩ := bind_eq_ok_iff.1 h
  cases h

theorem Members.values_member {key value : Node} {colon after : Nat} {rest : Members} {room : Nat}
    {ms : List (String × Value)}
    (h : (Members.member key colon value after rest).values room = .ok ms) :
    (∃ name, key.key = .ok name) ∧ (∃ v, value.value room = .ok v) ∧
      ∃ ms', rest.values room = .ok ms' := by
  obtain ⟨name, hk, h⟩ := bind_eq_ok_iff.1 h
  obtain ⟨v, hv, h⟩ := bind_eq_ok_iff.1 h
  obtain ⟨ms', hms, _⟩ := bind_eq_ok_iff.1 h
  exact ⟨⟨name, hk⟩, ⟨v, hv⟩, ms', hms⟩

theorem Cursor.length_skipSpaces (c : Cursor) : c.skipSpaces.rest.length ≤ c.rest.length :=
  (blanks_skipSpaces c).length_le

-- A node that holds a string is its text in quotes.
theorem quoted_of_begins {span : Span} {name : String} {t : Tree} {cs rest : List Char}
    (h : (Node.string span (.ok name)).Holds t) (hb : t.Begins cs rest) :
    ∃ s cs', name = String.ofList s ∧ cs = '"' :: cs' ∧ Quoted s cs' rest := by
  cases h
  generalize he : Tree.string name = t at hb
  cases hb <;> cases he
  exact ⟨_, _, rfl, rfl, ‹_›⟩

-- What is read as a value with so much fuel has been derived by the grammar.
def NodesSound (fuel : Nat) : Prop :=
  ∀ {c : Cursor} {node : Node} {after : Option Cursor} {room : Nat} {v : Value},
    3 * c.rest.length ≤ fuel → readNode fuel c = (node, after) → node.value room = .ok v →
      ∃ t c', after = some c' ∧ node.Holds t ∧ t.Begins c.rest c'.rest

def ItemsSound (fuel : Nat) : Prop :=
  ∀ {c : Cursor} {items : Items} {after : Option Cursor} {room : Nat} {vs : List Value},
    3 * c.rest.length < fuel → readItem fuel c = (items, after) → items.values room = .ok vs →
      ∃ ts c', after = some c' ∧ items.Hold ts ∧ Items.Begin ts c.rest c'.rest

def MembersSound (fuel : Nat) : Prop :=
  ∀ {c : Cursor} {members : Members} {after : Option Cursor} {room : Nat}
    {vs : List (String × Value)},
    3 * c.rest.length < fuel → readMember fuel c = (members, after) →
      members.values room = .ok vs →
        ∃ ms c', after = some c' ∧ members.Hold ms ∧ Members.Begin ms c.rest c'.rest

section Steps

variable {fuel : Nat} {c : Cursor} {after : Option Cursor} {room : Nat}

theorem ItemsSound.readItems (hs : ItemsSound fuel) {items : Items} {vs : List Value}
    (hf : 3 * c.rest.length < fuel) (h : Json.readItems (fuel + 1) c = (items, after))
    (hv : items.values room = .ok vs) :
    ∃ ts c', after = some c' ∧ items.Hold ts ∧
      (ts = [] ∧ c.rest = ']' :: c'.rest ∨ Items.Begin ts c.rest c'.rest) := by
  rw [Json.readItems] at h
  split at h
  case h_1 =>
    cases h
    obtain ⟨_, he, _⟩ := map_eq_ok_iff.1 hv
    cases he
  case h_2 hc =>
    cases h
    exact ⟨[], _, rfl, .ended _, .inl ⟨rfl, hc⟩⟩
  case h_3 =>
    obtain ⟨ts, c', ha, hi, hts⟩ := hs hf h hv
    exact ⟨ts, c', ha, hi, .inr hts⟩

theorem MembersSound.readMembers (hs : MembersSound fuel) {members : Members}
    {vs : List (String × Value)} (hf : 3 * c.rest.length < fuel)
    (h : Json.readMembers (fuel + 1) c = (members, after)) (hv : members.values room = .ok vs) :
    ∃ ms c', after = some c' ∧ members.Hold ms ∧
      (ms = [] ∧ c.rest = '}' :: c'.rest ∨ Members.Begin ms c.rest c'.rest) := by
  rw [Json.readMembers] at h
  split at h
  case h_1 =>
    cases h
    obtain ⟨_, he, _⟩ := map_eq_ok_iff.1 hv
    cases he
  case h_2 hc =>
    cases h
    exact ⟨[], _, rfl, .ended _, .inl ⟨rfl, hc⟩⟩
  case h_3 =>
    obtain ⟨ms, c', ha, hm, hms⟩ := hs hf h hv
    exact ⟨ms, c', ha, hm, .inr hms⟩

theorem NodesSound.succ (hi : ItemsSound (fuel - 1)) (hm : MembersSound (fuel - 1)) :
    NodesSound (fuel + 1) := by
  intro c node after room v hf h hv
  rw [readNode] at h
  split at h
  case h_1 hc =>
    obtain ⟨span, c', rfl, rfl, rfl⟩ := wordNode_holds h hv
    exact ⟨_, c', rfl, .null span, hc ▸ .null⟩
  case h_2 hc =>
    obtain ⟨span, c', rfl, rfl, rfl⟩ := wordNode_holds h hv
    exact ⟨_, c', rfl, .bool span _, hc ▸ .yes⟩
  case h_3 hc =>
    obtain ⟨span, c', rfl, rfl, rfl⟩ := wordNode_holds h hv
    exact ⟨_, c', rfl, .bool span _, hc ▸ .no⟩
  case h_4 hc =>
    obtain ⟨s, c', ha, hn, hq⟩ := stringNode_holds h hv
    exact ⟨_, c', ha, hn, hc ▸ .string hq⟩
  case h_5 hc =>
    obtain ⟨n, c', ha, hn, hs, hf⟩ := numberNode_holds h hv
    exact ⟨_, c', ha, hn, hc ▸ .number (.negative hs hf)⟩
  case h_6 cs hc =>
    have hb := blanks_skipSpaces ⟨c.offset + 1, cs⟩
    have hl := hb.length_le
    rw [hc, List.length_cons] at hf
    obtain ⟨fuel, rfl⟩ : ∃ f, fuel = f + 1 := ⟨fuel - 1, by omega⟩
    cases hr : readItems (fuel + 1) (Cursor.skipSpaces ⟨c.offset + 1, cs⟩)
    rw [hr] at h
    cases h
    obtain ⟨_, vs, hvs⟩ := Node.values_array hv
    obtain ⟨ts, c', rfl, hi, ht⟩ := hi.readItems (by dsimp only at hl; omega) hr hvs
    refine ⟨.array ts, c', rfl, .array _ hi, hc ▸ ?_⟩
    cases ht
    case inl ht => exact ht.1 ▸ .empty (ht.2 ▸ hb)
    case inr ht => exact .array hb ht
  case h_7 cs hc =>
    have hb := blanks_skipSpaces ⟨c.offset + 1, cs⟩
    have hl := hb.length_le
    rw [hc, List.length_cons] at hf
    obtain ⟨fuel, rfl⟩ : ∃ f, fuel = f + 1 := ⟨fuel - 1, by omega⟩
    cases hr : readMembers (fuel + 1) (Cursor.skipSpaces ⟨c.offset + 1, cs⟩)
    rw [hr] at h
    cases h
    obtain ⟨_, ms, hms⟩ := Node.values_object hv
    obtain ⟨ms, c', rfl, hm, ht⟩ := hm.readMembers (by dsimp only at hl; omega) hr hms
    refine ⟨.object ms, c', rfl, .object _ hm, hc ▸ ?_⟩
    cases ht
    case inl ht => exact ht.1 ▸ .bare (ht.2 ▸ hb)
    case inr ht => exact .object hb ht
  case h_8 d cs _ _ _ _ _ _ _ hc =>
    split at h
    case isTrue =>
      obtain ⟨n, c', ha, hn, hs, hf⟩ := numberNode_holds h hv
      exact ⟨_, c', ha, hn, .number (.positive hs hf)⟩
    case isFalse =>
      cases h
      exact absurd hv Node.value_broken
  case h_9 =>
    cases h
    exact absurd hv Node.value_broken

theorem ItemsSound.succ (hn : NodesSound fuel) (hi : ItemsSound fuel) : ItemsSound (fuel + 1) := by
  intro c items after room vs hf h hv
  have hf : 3 * c.rest.length ≤ fuel := Nat.le_of_lt_succ hf
  rw [readItem] at h
  split at h
  case h_1 node hr =>
    cases h
    obtain ⟨⟨v, hv⟩, _⟩ := Items.values_item hv
    obtain ⟨t, c', ha, _⟩ := hn hf hr hv
    cases ha
  case h_2 node c₁ hr =>
    dsimp only at h
    have hb := blanks_skipSpaces c₁
    split at h
    case h_1 cs hc =>
      rw [hc] at hb
      cases hrs : readItem fuel (Cursor.skipSpaces ⟨c₁.skipSpaces.offset + 1, cs⟩)
      rw [hrs] at h
      cases h
      obtain ⟨⟨v, hv⟩, vs', hvs⟩ := Items.values_item hv
      obtain ⟨t, _, ⟨⟩, ht, hbegin⟩ := hn hf hr hv
      have hl := Cursor.length_skipSpaces ⟨c₁.skipSpaces.offset + 1, cs⟩
      have hlt := (Nat.lt_of_succ_le hb.length_le).trans hbegin.length_lt
      obtain ⟨ts, c', rfl, hts, hbegins⟩ := hi (by dsimp only at hl; omega) hrs hvs
      exact ⟨t :: ts, c', rfl, .item ht hts, .cons hbegin hb (blanks_skipSpaces ⟨_, cs⟩) hbegins⟩
    case h_2 cs hc =>
      rw [hc] at hb
      cases h
      obtain ⟨⟨v, hv⟩, _⟩ := Items.values_item hv
      obtain ⟨t, _, ⟨⟩, ht, hbegin⟩ := hn hf hr hv
      exact ⟨[t], _, rfl, .item ht (.ended _), .last hbegin hb⟩
    case h_3 hc =>
      cases h
      obtain ⟨_, vs', hvs⟩ := Items.values_item hv
      obtain ⟨_, he, _⟩ := map_eq_ok_iff.1 hvs
      obtain ⟨cs, hr⟩ := Cursor.rest_of_next (listEnd_next he)
      exact absurd hr (hc cs)

-- A key that is a string, a colon and a value are a member.
theorem NodesSound.member (hn : NodesSound fuel) (hf : 3 * c.rest.length ≤ fuel) {c₁ : Cursor}
    {span : Span} {name : Except Fault String} (hk : readNode fuel c = (.string span name, some c₁))
    {cs : List Char} (hc : c₁.skipSpaces.rest = ':' :: cs) {key : String} (hkey : name = .ok key)
    {value : Node} {v : Value}
    (hr : readNode fuel (Cursor.skipSpaces ⟨c₁.skipSpaces.offset + 1, cs⟩) = (value, after))
    (hv : value.value room = .ok v) :
    ∃ t c', after = some c' ∧ value.Holds t ∧ Member.Begins (key, t) c.rest c'.rest := by
  cases hkey
  have hb := blanks_skipSpaces c₁
  have hb' := blanks_skipSpaces ⟨c₁.skipSpaces.offset + 1, cs⟩
  rw [hc] at hb
  obtain ⟨_, _, ⟨⟩, ht, hbegin⟩ := hn hf hk (Node.value_string 0 span _)
  have hlt := hbegin.length_lt
  obtain ⟨s, cs', rfl, he, hq⟩ := quoted_of_begins ht hbegin
  have hl := hb.length_le
  have hl' := hb'.length_le
  obtain ⟨t, c', ha, ht, hbegin⟩ := hn (by simp at *; omega) hr hv
  exact ⟨t, c', ha, ht, he ▸ .intro hq hb hb' hbegin⟩

theorem MembersSound.succ (hn : NodesSound fuel) (hm : MembersSound fuel) :
    MembersSound (fuel + 1) := by
  intro c members after room vs hf h hv
  have hf : 3 * c.rest.length ≤ fuel := Nat.le_of_lt_succ hf
  rw [readMember] at h
  split at h
  case h_1 =>
    cases h
    exact absurd hv Members.values_bare
  case h_2 key c₁ hk =>
    dsimp only at h
    split at h
    case h_2 =>
      cases h
      exact absurd hv Members.values_bare
    case h_1 span name cs hc =>
      split at h
      case h_1 value hr =>
        cases h
        obtain ⟨⟨_, hkey⟩, ⟨v, hv⟩, _⟩ := Members.values_member hv
        obtain ⟨_, _, ha, _⟩ := hn.member hf hk hc hkey hr hv
        cases ha
      case h_2 value c₂ hr =>
        have hb := blanks_skipSpaces c₂
        split at h
        case h_1 cs₂ hc₂ =>
          rw [hc₂] at hb
          cases hrs : readMember fuel (Cursor.skipSpaces ⟨c₂.skipSpaces.offset + 1, cs₂⟩)
          rw [hrs] at h
          cases h
          obtain ⟨⟨_, hkey⟩, ⟨_, hv⟩, _, hvs⟩ := Members.values_member hv
          obtain ⟨t, _, ⟨⟩, ht, hbegin⟩ := hn.member hf hk hc hkey hr hv
          have hl := Cursor.length_skipSpaces ⟨c₂.skipSpaces.offset + 1, cs₂⟩
          have hlt := (Nat.lt_of_succ_le hb.length_le).trans hbegin.length_lt
          obtain ⟨ms, c', rfl, hms, hbegins⟩ := hm (by dsimp only at hl; omega) hrs hvs
          cases (show name = .ok _ from hkey)
          exact ⟨_, c', rfl, .member span _ _ _ ht hms,
            .cons hbegin hb (blanks_skipSpaces ⟨_, cs₂⟩) hbegins⟩
        case h_2 cs₂ hc₂ =>
          rw [hc₂] at hb
          cases h
          obtain ⟨⟨_, hkey⟩, ⟨_, hv⟩, _⟩ := Members.values_member hv
          obtain ⟨t, _, ⟨⟩, ht, hbegin⟩ := hn.member hf hk hc hkey hr hv
          cases (show name = .ok _ from hkey)
          exact ⟨_, _, rfl, .member span _ _ _ ht (.ended _), .last hbegin hb⟩
        case h_3 hc₂ =>
          cases h
          obtain ⟨_, _, ms', hms⟩ := Members.values_member hv
          obtain ⟨_, he, _⟩ := map_eq_ok_iff.1 hms
          obtain ⟨cs, hr⟩ := Cursor.rest_of_next (objectEnd_next he)
          exact absurd hr (hc₂ cs)

end Steps

-- Nodes are made of items and members that are read with less fuel, and these of nodes.
theorem reads_soundly (fuel : Nat) : NodesSound fuel ∧ ItemsSound fuel ∧ MembersSound fuel := by
  induction fuel using Nat.strong_induction_on
  case h fuel hi =>
    cases fuel
    case zero =>
      refine ⟨?_, nofun, nofun⟩
      intro c node after room v _ h hv
      cases h
      exact absurd hv Node.value_broken
    case succ fuel =>
      obtain ⟨hn, his, hms⟩ := hi fuel (Nat.lt_succ_self fuel)
      obtain ⟨_, his', hms'⟩ := hi (fuel - 1) (by omega)
      exact ⟨NodesSound.succ his' hms', ItemsSound.succ hn his, MembersSound.succ hn hms⟩

end Sound

section Documents

-- A text of a tree is read as a node that holds the tree, with nothing behind it.
theorem Tree.HasText.ofText_eq {t : Tree} {text : String} (h : t.HasText text) :
    ∃ node offset, Document.ofText text = ⟨node, offset, none⟩ ∧ node.Holds t := by
  obtain ⟨cs, rest, hb, ht, hr⟩ := h
  obtain ⟨o, hb'⟩ := ht.opens.skipSpaces_eq hb 0
  have hl := hb.length_le
  have hn : EndsNumeral rest := hr.endsNumeral (by simp [EndsNumeral])
  obtain ⟨node, o', ht, hnode⟩ := ht.readNode_eq (3 * text.toList.length + 1) (by omega) hn o
  refine ⟨node, (Cursor.skipSpaces ⟨o', rest⟩).offset, ?_, hnode⟩
  have hrest : (Cursor.skipSpaces ⟨o', rest⟩).next = none := by
    rw [Cursor.next, Cursor.skipSpaces, hr.dropWhile_eq (by simp)]
    rfl
  simp only [Document.ofText, hb', ht, hrest]

theorem Document.decode_eq_ok {α : Type} {decode : Decoder α} {d : Document} {a : α}
    (h : d.decode decode = .ok a) : decode maxOpen d.root = .ok a ∧ d.next = none := by
  obtain ⟨a', ha, h⟩ := bind_eq_ok_iff.1 h
  split at h <;> cases h
  case isFalse hn => exact ⟨ha, by simpa using hn⟩

-- A text whose value can be read is the text of a tree.
theorem exists_hasText {text : String} {v : Value} (h : Value.ofText text = .ok v) :
    ∃ t : Tree, t.HasText text := by
  obtain ⟨hv, hnext⟩ := Document.decode_eq_ok h
  have hb := blanks_dropWhile text.toList
  have hl := hb.length_le
  unfold Document.ofText at hv hnext
  dsimp only at hv hnext
  split at hv
  case h_2 hr =>
    obtain ⟨_, _, ha, _⟩ := (reads_soundly _).1 (by simp [Cursor.skipSpaces]; omega) hr hv
    cases ha
  case h_1 c hr =>
    obtain ⟨t, _, ha, _, ht⟩ := (reads_soundly _).1 (by simp [Cursor.skipSpaces]; omega) hr hv
    cases ha
    have hrest : c.skipSpaces.rest = [] := by
      rw [hr] at hnext
      exact List.head?_eq_none_iff.1 hnext
    exact ⟨t, _, c.rest, hb, ht, hrest ▸ blanks_skipSpaces c⟩

end Documents
end ChainHost.Json
