import ChainHost.Proofs.Json.Record

namespace ChainHost.Json

section Values

variable {room : Nat} {node : Node} {v : Value}

@[simp]
theorem Node.value_null (room : Nat) (span : Span) : (Node.null span).value room = .ok .null := by
  cases room <;> rfl

@[simp]
theorem Node.value_number (room : Nat) (span : Span) (n : Except Fault Number) :
    (Node.number span n).value room = n.map .number := by
  cases room <;> rfl

@[simp]
theorem Node.value_string (room : Nat) (span : Span) (s : Except Fault String) :
    (Node.string span s).value room = s.map .string := by
  cases room <;> rfl

-- Only the word for it is read as null.
theorem Node.eq_null_of_value (h : node.value room = .ok .null) : ∃ span, node = .null span := by
  cases node
  case null span => exact ⟨span, rfl⟩
  case number span n =>
    rw [Node.value_number] at h
    cases n <;> cases h
  case string span s =>
    rw [Node.value_string] at h
    cases s <;> cases h
  case array items =>
    cases room
    case zero   => cases h
    case succ _ => obtain ⟨_, _, ⟨⟩⟩ := map_eq_ok_iff.1 h
  case object members =>
    cases room
    case zero   => cases h
    case succ _ => obtain ⟨_, _, ⟨⟩⟩ := map_eq_ok_iff.1 h
  case broken => cases room <;> cases h
  case bool   => cases room <;> cases h

end Values

-- What is read by `decode` is a value, and `R` tells what becomes of it.
def Decoder.Reads {α : Type} (decode : Decoder α) (R : Value → α → Prop) : Prop :=
  ∀ {room : Nat} {node : Node} {a : α}, decode room node = .ok a →
    ∃ v, node.value room = .ok v ∧ R v a

section Scalars

theorem anyValue_reads : anyValue.Reads Eq :=
  fun h => ⟨_, h, rfl⟩

theorem text_eq_ok {expected : Expected} {node : Node} {s : String}
    (h : node.text expected = .ok s) : ∃ span, node = .string span (.ok s) := by
  cases node <;> cases h
  case string span => exact ⟨span, rfl⟩

theorem string_reads : string.Reads fun v s => v = .string s := by
  intro room node s h
  obtain ⟨span, rfl⟩ := text_eq_ok h
  exact ⟨_, Node.value_string room span _, rfl⟩

theorem path_reads : path.Reads fun v s => v = .string s := by
  intro room node s h
  obtain ⟨span, rfl⟩ := text_eq_ok h
  exact ⟨_, Node.value_string room span _, rfl⟩

theorem size_reads : size.Reads fun v k => v = .number (.integer k) := by
  intro room node k h
  unfold size at h
  split at h
  case h_2 => cases h
  case h_1 span i =>
    split at h <;> cases h
    case isFalse hi =>
      have hk : (i.toNat : Int) = i := Int.toNat_of_nonneg (Int.not_lt.1 hi)
      exact ⟨_, Node.value_number _ span _, by dsimp only; rw [hk]⟩

-- How a schema is written: its name, or an object with the name for its one key.
inductive Value.IsSchema : Value → Schema → Prop
  | name (s : Schema) : IsSchema (.string s.name) s
  | key (s : Schema) : IsSchema (.object [(s.name, .null)]) s

theorem Value.IsSchema.eq {s t : Schema} (h : (Value.string t.name).IsSchema s) : s = t := by
  generalize hv : Value.string t.name = v at h
  cases h
  case name => exact Schema.name_injective (Value.string.inj hv).symm
  case key  => cases hv

theorem schemaNamed_eq_ok {name : String} {stop : Nat} {s : Schema}
    (h : schemaNamed name stop = .ok s) : name = s.name := by
  unfold schemaNamed at h
  split at h <;> cases h
  case h_1 hs => exact Schema.ofName?_eq_some_iff.1 hs

theorem schemaKey_eq_ok {node : Node} {s : Schema} (h : node.schemaKey = .ok s) :
    ∃ span, node = .string span (.ok s.name) := by
  unfold Node.schemaKey at h
  split at h
  case h_1 span name =>
    rw [schemaNamed_eq_ok h]
    exact ⟨span, rfl⟩
  all_goals cases h

theorem schemaMembers_eq_ok {members : Members} {s : Schema} (h : members.schema = .ok s)
    (room : Nat) : members.values room = .ok [(s.name, .null)] := by
  cases members
  case ended => cases h
  case bare =>
    obtain ⟨_, _, h⟩ := bind_eq_ok_iff.1 h
    cases h
  case member key colon value after rest =>
    simp only [Members.schema, bind_eq_ok_iff] at h
    obtain ⟨s', hk, h⟩ := h
    obtain ⟨span, rfl⟩ := schemaKey_eq_ok hk
    split at h
    case h_2 => cases h
    case h_1 =>
      split at h <;> cases h
      simp only [Members.values, Node.value_null]
      rfl

theorem schema_reads : schema.Reads Value.IsSchema := by
  intro room node s h
  unfold schema at h
  split at h
  case h_1 span name =>
    rw [schemaNamed_eq_ok h]
    exact ⟨_, Node.value_string _ span _, .name s⟩
  case h_4 room start members =>
    refine ⟨_, ?_, .key s⟩
    rw [Node.value, schemaMembers_eq_ok h]
    rfl
  all_goals cases h

end Scalars

section Containers

variable {α : Type} {decode : Decoder α} {R : Value → α → Prop} {room : Nat}

theorem Decoder.Reads.optional (hd : decode.Reads R) : (Json.optional decode).Reads fun v a =>
    (v = .null ∧ a = none) ∨ (v ≠ .null ∧ ∃ b, a = some b ∧ R v b) := by
  intro room node a h
  unfold Json.optional at h
  split at h
  case h_1 span =>
    cases h
    exact ⟨_, Node.value_null _ span, .inl ⟨rfl, rfl⟩⟩
  case h_2 hn =>
    obtain ⟨b, hb, rfl⟩ := map_eq_ok_iff.1 h
    obtain ⟨v, hv, hr⟩ := hd hb
    refine ⟨v, hv, .inr ⟨?_, b, rfl, hr⟩⟩
    rintro rfl
    obtain ⟨span, he⟩ := Node.eq_null_of_value hv
    exact hn span he

theorem Node.asItem_eq_ok {read : Node → Except Fault α} {node : Node} {a : α}
    (h : node.asItem read = .ok a) : node.trailingComma? = none ∧ read node = .ok a := by
  unfold Node.asItem at h
  split at h
  case h_1    => cases h
  case h_2 hc => exact ⟨hc, h⟩

theorem values_item_eq_ok {node : Node} {rest : Items} {v : Value} {vs : List Value}
    (hc : node.trailingComma? = none) (hv : node.value room = .ok v)
    (hr : rest.values room = .ok vs) : (Items.item node rest).values room = .ok (v :: vs) := by
  simp only [Items.values, hc, hv, hr]
  rfl

theorem listEnd_eq_ok {offset : Nat} {next : Option Char} {u : Unit}
    (h : listEnd offset next = .ok u) (room : Nat) :
    (Items.ended offset next).values room = .ok [] := by
  rw [Items.values, h]
  rfl

theorem objectEnd_eq_ok {offset : Nat} {next : Option Char} {u : Unit}
    (h : objectEnd offset next = .ok u) (room : Nat) :
    (Members.ended offset next).values room = .ok [] := by
  rw [Members.values, h]
  rfl

theorem values_member_eq_ok {key value : Node} {colon after : Nat} {rest : Members} {name : String}
    {v : Value} {ms : List (String × Value)} (hk : key.key = .ok name)
    (hv : value.value room = .ok v) (hr : rest.values room = .ok ms) :
    (Members.member key colon value after rest).values room = .ok ((name, v) :: ms) := by
  simp only [Members.values, hk, hv, hr]
  rfl

theorem Decoder.Reads.items (hd : decode.Reads R) : (items : Items) → {as : List α} →
    items.list (decode room) = .ok as →
      ∃ vs, items.values room = .ok vs ∧ List.Forall₂ R vs as
  | .ended offset next, as, h => by
    obtain ⟨_, he, rfl⟩ := map_eq_ok_iff.1 h
    exact ⟨[], listEnd_eq_ok he room, .nil⟩
  | .item node rest, as, h => by
    simp only [Items.list, bind_eq_ok_iff] at h
    obtain ⟨a, ha, as', has, ⟨⟩⟩ := h
    obtain ⟨hc, ha⟩ := Node.asItem_eq_ok ha
    obtain ⟨v, hv, hr⟩ := hd ha
    obtain ⟨vs, hvs, hrs⟩ := hd.items rest has
    exact ⟨v :: vs, values_item_eq_ok hc hv hvs, .cons hr hrs⟩

theorem Decoder.Reads.listOf (hd : decode.Reads R) :
    (Json.listOf decode).Reads fun v as => ∃ vs, v = .array vs ∧ List.Forall₂ R vs as := by
  intro room node as h
  unfold Json.listOf at h
  split at h
  case h_2 room start items =>
    obtain ⟨vs, hvs, hr⟩ := hd.items items h
    refine ⟨.array vs, ?_, vs, rfl, hr⟩
    rw [Node.value, hvs]
    rfl
  all_goals cases h

-- Members of the same keys whose values are related.
abbrev SameKeys (R : Value → α → Prop) : List (String × Value) → List (String × α) → Prop :=
  List.Forall₂ fun m m' => m.1 = m'.1 ∧ R m.2 m'.2

theorem SameKeys.keys_eq {ms : List (String × Value)} {as : List (String × α)}
    (h : SameKeys R ms as) : as.map Prod.fst = ms.map Prod.fst :=
  keys_of_forall₂ (R := fun _ => R) (h.imp fun _ _ hm => ⟨hm.1.symm, hm.2⟩)

theorem SameKeys.insertMember {ms : List (String × Value)} {as : List (String × α)} {key : String}
    {v : Value} {a : α} (h : SameKeys R ms as) (hr : R v a) :
    SameKeys R (Json.insertMember key v ms) (Json.insertMember key a as) := by
  induction h
  case nil => exact .cons ⟨rfl, hr⟩ .nil
  case cons m m' ms as hm hms hi =>
    obtain ⟨k, w⟩ := m
    obtain ⟨_, b⟩ := m'
    obtain ⟨rfl, hw⟩ := hm
    unfold Json.insertMember
    split
    case isTrue => exact .cons ⟨rfl, hr⟩ (.cons ⟨rfl, hw⟩ hms)
    case isFalse =>
      split
      case isTrue  => exact .cons ⟨rfl, hr⟩ hms
      case isFalse => exact .cons ⟨rfl, hw⟩ hi

theorem SameKeys.foldl_insertMember {ms : List (String × Value)} {as : List (String × α)}
    (h : SameKeys R ms as) {sorted : List (String × Value)} {sorted' : List (String × α)}
    (hs : SameKeys R sorted sorted') :
    SameKeys R (ms.foldl (fun sorted m => Json.insertMember m.1 m.2 sorted) sorted)
      (as.foldl (fun sorted m => Json.insertMember m.1 m.2 sorted) sorted') := by
  induction h generalizing sorted sorted'
  case nil => exact hs
  case cons m m' ms as hm _ hi =>
    obtain ⟨k, w⟩ := m
    obtain ⟨_, b⟩ := m'
    obtain ⟨rfl, hw⟩ := hm
    exact hi (hs.insertMember hw)

theorem SameKeys.sortMembers {ms : List (String × Value)} {as : List (String × α)}
    (h : SameKeys R ms as) : SameKeys R (Json.sortMembers ms) (Json.sortMembers as) :=
  h.foldl_insertMember .nil

theorem Decoder.Reads.pairs (hd : decode.Reads R) : (members : Members) →
    {as : List (String × α)} → members.pairs (decode room) = .ok as →
      ∃ ms, members.values room = .ok ms ∧ SameKeys R ms as
  | .ended offset next, as, h => by
    obtain ⟨_, he, rfl⟩ := map_eq_ok_iff.1 h
    exact ⟨[], objectEnd_eq_ok he room, .nil⟩
  | .bare .., _, h => by
    obtain ⟨_, _, h⟩ := bind_eq_ok_iff.1 h
    cases h
  | .member key colon value after rest, as, h => by
    simp only [Members.pairs, bind_eq_ok_iff] at h
    obtain ⟨name, hk, a, ha, as', has, ⟨⟩⟩ := h
    obtain ⟨v, hv, hr⟩ := hd ha
    obtain ⟨ms, hms, hrs⟩ := hd.pairs rest has
    exact ⟨(name, v) :: ms, values_member_eq_ok hk hv hms, .cons ⟨rfl, hr⟩ hrs⟩

theorem Decoder.Reads.mapOf (hd : decode.Reads R) :
    (Json.mapOf decode).Reads fun v as => ∃ ms, v = .object ms ∧ SameKeys R ms as := by
  intro room node as h
  unfold Json.mapOf at h
  split at h
  case h_2 room start members =>
    obtain ⟨pairs, hp, rfl⟩ := map_eq_ok_iff.1 h
    obtain ⟨ms, hms, hr⟩ := hd.pairs members hp
    refine ⟨.object (Json.sortMembers ms), ?_, _, rfl, hr.sortMembers⟩
    rw [Node.value, hms]
    rfl
  all_goals cases h

-- A whole text that is read by `decode` is the text of a value.
theorem Decoder.Reads.ofText (hd : decode.Reads R) {text : String} {a : α}
    (h : decodeText decode text = .ok a) : ∃ v, Value.ofText text = .ok v ∧ R v a := by
  obtain ⟨a', ha, h⟩ := bind_eq_ok_iff.1 h
  obtain ⟨v, hv, hr⟩ := hd ha
  split at h
  case isTrue => cases h
  case isFalse hn =>
    cases h
    refine ⟨v, ?_, hr⟩
    have he : anyValue maxOpen (Document.ofText text).root = .ok v := hv
    simp only [Value.ofText, decodeText, Document.decode, he, if_neg hn]
    rfl

end Containers

namespace Layout

variable {σ α β : Type} {l : Layout σ α} {room : Nat}

-- Each field is read from a value.
def ReadsValues (l : Layout σ α) : Prop :=
  ∀ f ∈ l.fields, ∀ {room : Nat} {node : Node} {draft draft' : σ},
    f.read room node draft = .ok draft' → ∃ v, node.value room = .ok v

-- The field with one key puts a part of the draft there, as `P` tells, and no other field changes it.
structure Sets (l : Layout σ α) (key : String) (part : σ → β) (P : Value → β → Prop) : Prop where
  reads : ∀ f ∈ l.fields, f.name = key → ∀ {room : Nat} {node : Node} {draft draft' : σ},
    f.read room node draft = .ok draft' → ∃ v, node.value room = .ok v ∧ P v (part draft')
  keeps : ∀ f ∈ l.fields, f.name ≠ key → ∀ {room : Nat} {node : Node} {draft draft' : σ},
    f.read room node draft = .ok draft' → part draft' = part draft

-- A part after a value has been read for it, or where there was none.
def ComesFrom (P : Value → β → Prop) (before after : β) : Option Value → Prop
  | some v => P v after
  | none   => after = before

theorem ComesFrom.exists_of_ne {P : Value → β → Prop} {before after : β} {v? : Option Value}
    (h : ComesFrom P before after v?) (hne : after ≠ before) : ∃ v, v? = some v ∧ P v after := by
  cases v?
  case none   => exact absurd h hne
  case some v => exact ⟨v, rfl, h⟩

theorem ComesFrom.bind_eq {γ : Type} {get : Value → Option γ} {write : β → Option γ}
    {before after : β} {v? : Option Value}
    (h : ComesFrom (fun v b => get v = write b) before after v?) (hb : write before = none) :
    v?.bind get = write after := by
  cases v?
  case none   => exact (h ▸ hb).symm
  case some v => exact h

section Members

variable {key : String} {part : σ → β} {P : Value → β → Prop}

-- The member that is read first counts, as its key does not come again.
theorem Sets.comesFrom_cons (hp : l.Sets key part P) {f : Field σ} (hf : f ∈ l.fields)
    {node : Node} {draft draft' : σ} (hd : f.read room node draft = .ok draft') {v : Value}
    (hv : node.value room = .ok v) {ms : List (String × Value)} (hn : f.name ∉ ms.map Prod.fst)
    {after : β} (h : ComesFrom P (part draft') after (findMember? key ms)) :
    ComesFrom P (part draft) after (findMember? key ((f.name, v) :: ms)) := by
  rw [findMember?]
  split
  case isTrue he =>
    have hnone : findMember? key ms = none := findMember?_eq_none_iff.2 (he ▸ hn)
    obtain ⟨v', hv', hpv⟩ := hp.reads f hf he hd
    cases hv.symm.trans hv'
    rw [hnone] at h
    exact h.symm ▸ hpv
  case isFalse he =>
    rwa [← hp.keeps f hf he hd]

theorem name_of_field? {name : String} {f : Field σ} (h : l.field? name = some f) :
    f.name = name := by
  simpa using List.find?_some h

-- A member of a strict record is a field that has not been read before.
theorem gatherMembers_member_eq_ok (hs : l.strict = true) {keyNode value : Node}
    {colon after : Nat} {rest : Members} {seen : List String} {draft : σ} {gathered : σ × Nat}
    (h : l.gatherMembers room (.member keyNode colon value after rest) seen draft = .ok gathered) :
    ∃ f draft', keyNode.key = .ok f.name ∧ f.name ∉ seen ∧ f ∈ l.fields ∧
      f.read room value draft = .ok draft' ∧
      l.gatherMembers room rest (f.name :: seen) draft' = .ok gathered := by
  simp only [gatherMembers, bind_eq_ok_iff] at h
  obtain ⟨name, hk, h⟩ := h
  split at h
  case h_1 => cases h
  case h_2 hr =>
    split at h
    case h_2 hf => simp [refusal?, hf, hs] at hr
    case h_1 f hf =>
      obtain ⟨draft', hd, h⟩ := bind_eq_ok_iff.1 h
      obtain rfl := name_of_field? hf
      have hm : f.name ∉ seen := by
        intro hm
        simp [refusal?, hf, hm] at hr
      exact ⟨f, draft', hk, hm, mem_fields_of_field? hf, hd, h⟩

theorem ReadsValues.gatherMembers (hl : l.ReadsValues) (hs : l.strict = true) :
    (members : Members) → {seen : List String} → {draft : σ} → {gathered : σ × Nat} →
      l.gatherMembers room members seen draft = .ok gathered →
        ∃ ms, members.values room = .ok ms ∧ (ms.map Prod.fst).Nodup ∧
          ∀ name ∈ seen, name ∉ ms.map Prod.fst
  | .ended offset next, seen, draft, gathered, h => by
    obtain ⟨_, he, rfl⟩ := map_eq_ok_iff.1 h
    exact ⟨[], objectEnd_eq_ok he room, by simp, by simp⟩
  | .bare .., _, _, _, h => absurd h gatherMembers_bare
  | .member keyNode colon value after rest, seen, draft, gathered, h => by
    obtain ⟨f, draft', hk, hm, hf, hd, h⟩ := gatherMembers_member_eq_ok hs h
    obtain ⟨v, hv⟩ := hl f hf hd
    obtain ⟨ms, hms, hnodup, hseen⟩ := hl.gatherMembers hs rest h
    refine ⟨(f.name, v) :: ms, values_member_eq_ok hk hv hms, ?nodup, ?unseen⟩
    case nodup => exact List.nodup_cons.2 ⟨hseen f.name List.mem_cons_self, hnodup⟩
    case unseen =>
      intro name hn
      have hne : name ≠ f.name := fun he => hm (he ▸ hn)
      exact List.not_mem_cons_of_ne_of_not_mem hne (hseen name (List.mem_cons_of_mem _ hn))

theorem Sets.gatherMembers (hp : l.Sets key part P) (hl : l.ReadsValues) (hs : l.strict = true) :
    (members : Members) → {seen : List String} → {draft : σ} → {gathered : σ × Nat} →
      {ms : List (String × Value)} →
      l.gatherMembers room members seen draft = .ok gathered → members.values room = .ok ms →
        ComesFrom P (part draft) (part gathered.1) (findMember? key ms)
  | .ended offset next, seen, draft, gathered, ms, h, hms => by
    obtain ⟨_, he, rfl⟩ := map_eq_ok_iff.1 h
    cases (objectEnd_eq_ok he room).symm.trans hms
    rfl
  | .bare .., _, _, _, _, h, _ => absurd h gatherMembers_bare
  | .member keyNode colon value after rest, seen, draft, gathered, ms, h, hms => by
    obtain ⟨f, draft', hk, hm, hf, hd, h⟩ := gatherMembers_member_eq_ok hs h
    obtain ⟨v, hv⟩ := hl f hf hd
    obtain ⟨ms', hms', -, hseen⟩ := hl.gatherMembers hs rest h
    cases (values_member_eq_ok hk hv hms').symm.trans hms
    have hrest := hp.gatherMembers hl hs rest h hms'
    exact hp.comesFrom_cons hf hd hv (hseen f.name List.mem_cons_self) hrest

end Members

section Items

variable {key : String} {part : σ → β} {P : Value → β → Prop} {fs : List (Field σ)}

theorem arrayEnd_eq_ok {items : Items} {stop : Nat} (h : arrayEnd items = .ok stop) (room : Nat) :
    items.values room = .ok [] := by
  unfold arrayEnd at h
  split at h
  case h_1 => rfl
  case h_5 =>
    obtain ⟨-, h⟩ := Node.asItem_eq_ok h
    cases h
  all_goals cases h

theorem gatherItems_item_eq_ok {f : Field σ} {node : Node} {rest : Items} {draft : σ}
    {gathered : σ × Nat} (h : gatherItems room (f :: fs) (.item node rest) draft = .ok gathered) :
    ∃ draft', node.trailingComma? = none ∧ f.read room node draft = .ok draft' ∧
      gatherItems room fs rest draft' = .ok gathered := by
  simp only [gatherItems, bind_eq_ok_iff] at h
  obtain ⟨draft', hd, h⟩ := h
  obtain ⟨hc, hd⟩ := Node.asItem_eq_ok hd
  exact ⟨draft', hc, hd, h⟩

theorem ReadsValues.gatherItems (hl : l.ReadsValues) (hf : fs ⊆ l.fields) {items : Items}
    {draft : σ} {gathered : σ × Nat}
    (h : Layout.gatherItems room fs items draft = .ok gathered) :
    ∃ vs, items.values room = .ok vs := by
  induction fs generalizing items draft
  case nil =>
    obtain ⟨stop, he, -⟩ := map_eq_ok_iff.1 h
    exact ⟨[], arrayEnd_eq_ok he room⟩
  case cons f fs hi =>
    obtain ⟨hf, hfs⟩ := List.cons_subset.1 hf
    cases items
    case ended offset next =>
      obtain ⟨_, he, -⟩ := map_eq_ok_iff.1 h
      exact ⟨[], listEnd_eq_ok he room⟩
    case item node rest =>
      obtain ⟨draft', hc, hd, h⟩ := gatherItems_item_eq_ok h
      obtain ⟨v, hv⟩ := hl f hf hd
      obtain ⟨vs, hvs⟩ := hi hfs h
      exact ⟨v :: vs, values_item_eq_ok hc hv hvs⟩

theorem Sets.gatherItems (hp : l.Sets key part P) (hl : l.ReadsValues) (hf : fs ⊆ l.fields)
    (hn : (fs.map Field.name).Nodup) {items : Items} {draft : σ} {gathered : σ × Nat}
    {vs : List Value} (h : Layout.gatherItems room fs items draft = .ok gathered)
    (hvs : items.values room = .ok vs) :
    ComesFrom P (part draft) (part gathered.1)
      (findMember? key ((fs.map Field.name).zip vs)) := by
  induction fs generalizing items draft vs
  case nil =>
    obtain ⟨stop, -, rfl⟩ := map_eq_ok_iff.1 h
    rfl
  case cons f fs hi =>
    obtain ⟨hf, hfs⟩ := List.cons_subset.1 hf
    obtain ⟨hm, hn⟩ := List.nodup_cons.1 hn
    cases items
    case ended offset next =>
      obtain ⟨_, he, rfl⟩ := map_eq_ok_iff.1 h
      cases (listEnd_eq_ok he room).symm.trans hvs
      rfl
    case item node rest =>
      obtain ⟨draft', hc, hd, h⟩ := gatherItems_item_eq_ok h
      obtain ⟨v, hv⟩ := hl f hf hd
      obtain ⟨vs', hvs'⟩ := hl.gatherItems hfs h
      cases (values_item_eq_ok hc hv hvs').symm.trans hvs
      have hunseen : f.name ∉ ((fs.map Field.name).zip vs').map Prod.fst := by
        intro hk
        obtain ⟨m, hmem, hk⟩ := List.mem_map.1 hk
        exact hm (hk ▸ (List.of_mem_zip hmem).1)
      exact hp.comesFrom_cons hf hd hv hunseen (hi hfs hn h hvs')

end Items

-- The members of a record, which stands as an object or as an array of its fields.
def members? (l : Layout σ α) : Value → Option (List (String × Value))
  | .object ms => some ms
  | .array vs  => some (l.names.zip vs)
  | _          => none

-- A record that was read from a value: each part of its draft comes from the member with its key.
def Read (l : Layout σ α) (v : Value) (a : α) : Prop :=
  ∃ ms draft, l.members? v = some ms ∧ l.finish draft = .ok a ∧
    ∀ {β : Type} {key : String} {part : σ → β} {P : Value → β → Prop}, l.Sets key part P →
      ComesFrom P (part l.empty) (part draft) (findMember? key ms)

theorem reads_record (hl : l.ReadsValues) (hs : l.strict = true) (hn : l.names.Nodup) :
    l.decode.Reads l.Read := by
  intro room node a h
  unfold decode at h
  split at h
  case h_3 room start items =>
    obtain ⟨gathered, hg, h⟩ := bind_eq_ok_iff.1 h
    obtain ⟨vs, hvs⟩ := hl.gatherItems (List.Subset.refl _) hg
    refine ⟨.array vs, ?_, _, gathered.1, rfl, exists_draft_of_close h, fun hp => ?_⟩
    · rw [Node.value, hvs]
      rfl
    · exact hp.gatherItems hl (List.Subset.refl _) hn hg hvs
  case h_4 room start members =>
    obtain ⟨gathered, hg, h⟩ := bind_eq_ok_iff.1 h
    obtain ⟨ms, hms, hnodup, -⟩ := hl.gatherMembers hs members hg
    refine ⟨.object (sortMembers ms), ?_, _, gathered.1, rfl, exists_draft_of_close h, fun hp => ?_⟩
    · rw [Node.value, hms]
      rfl
    · rw [findMember?_sortMembers hnodup]
      exact hp.gatherMembers hl hs members hg hms
  all_goals cases h

end Layout

theorem required_eq_ok {α : Type} {name : String} {value : Option α} {a : α}
    (h : required name value = .ok a) : value = some a := by
  cases value <;> cases h
  rfl

end ChainHost.Json
