import ChainHost.Proofs.Json.Parsing

namespace ChainHost.Json

def Makes {α : Type} (read : Node → Except Fault α) (R : Tree → α → Prop) : Prop :=
  ∀ ⦃node : Node⦄ ⦃t : Tree⦄ ⦃a : α⦄, node.Holds t → (read node = .ok a ↔ R t a)

def Decoder.Makes {α : Type} (decode : Decoder α) (R : Nat → Tree → α → Prop) : Prop :=
  ∀ room, Json.Makes (decode room) (R room)

section Scalars

def Tree.IsString (t : Tree) (s : String) : Prop :=
  t = .string s

theorem string_makes : string.Makes fun _ => Tree.IsString := by
  intro room node t s h
  cases h <;> simp [string, Node.text, Tree.IsString]

theorem path_makes : path.Makes fun _ => Tree.IsString := by
  intro room node t s h
  cases h <;> simp [path, Node.text, Tree.IsString]

theorem Tree.isString_rightUnique : Relator.RightUnique Tree.IsString :=
  fun _ _ _ h h' => Tree.string.inj (h.symm.trans h')

theorem numberAt_eq_ok_iff (stop : Nat) {n : Numeral} {x : Number} :
    numberAt stop n = .ok x ↔ n.value = .ok x := by
  unfold numberAt
  cases n.value <;> simp

def Tree.IsSize (t : Tree) (k : Nat) : Prop :=
  ∃ n, t = .number n ∧ n.value = .ok (.integer (Int.ofNat k))

theorem Tree.IsSize.unique {t : Tree} {k k' : Nat} (h : t.IsSize k) (h' : t.IsSize k') : k = k' := by
  obtain ⟨n, rfl, hn⟩ := h
  obtain ⟨_, ⟨⟩, hn'⟩ := h'
  simpa using hn.symm.trans hn'

theorem size_makes : size.Makes fun _ => Tree.IsSize := by
  intro room node t k h
  cases h
  case number span n =>
    simp only [Tree.IsSize, Tree.number.injEq, exists_eq_left']
    rw [← numberAt_eq_ok_iff span.stop]
    cases numberAt span.stop n
    case error f => simp [size, Node.mismatch]
    case ok x =>
      cases x
      case double x => simp [size]
      case integer i =>
        simp only [size]
        split <;> simp <;> omega
  all_goals simp [size, Tree.IsSize]

-- How a schema is written: its name, or an object with the name for its one key.
inductive Tree.IsSchema : Nat → Tree → Schema → Prop
  | name (room : Nat) (s : Schema) : IsSchema room (.string s.name) s
  | key (room : Nat) (s : Schema) : IsSchema (room + 1) (.object [(s.name, .null)]) s

-- A schema has one container at most.
theorem Tree.IsSchema.of_room {room : Nat} {t : Tree} {s : Schema} (h : t.IsSchema room s)
    (room' : Nat) : t.IsSchema (room' + 1) s := by
  cases h
  case name => exact .name _ s
  case key  => exact .key _ s

theorem Tree.isSchema_rightUnique (room : Nat) : Relator.RightUnique (Tree.IsSchema room) := by
  intro t s s' h h'
  cases h
  case name =>
    generalize ht : Tree.string s.name = t at h'
    cases h'
    case name => exact Schema.name_injective (Tree.string.inj ht)
    case key  => cases ht
  case key =>
    generalize ht : Tree.object [(s.name, .null)] = t at h'
    cases h'
    case name => cases ht
    case key  => exact Schema.name_injective (by simpa using ht)

theorem Members.Hold.schema_eq_ok_iff {members : Members} {ms : List (String × Tree)}
    (h : members.Hold ms) {s : Schema} : members.schema = .ok s ↔ ms = [(s.name, .null)] := by
  constructor
  case mp =>
    intro he
    cases h
    case ended => cases he
    case member hn hr =>
      simp only [Members.schema] at he
      obtain ⟨s', hk, hv⟩ := bind_eq_ok_iff.1 he
      obtain ⟨_, ⟨⟩⟩ := schemaKey_eq_ok hk
      split at hv
      case h_2 => cases hv
      case h_1 =>
        split at hv <;> cases hv
        cases hn
        cases hr
        rfl
  case mpr =>
    rintro rfl
    cases h
    case member hn hr =>
      cases hn
      cases hr
      simp [Members.schema, Node.schemaKey, schemaNamed, bind, Except.bind, pure, Except.pure]

theorem schema_makes : schema.Makes Tree.IsSchema := by
  intro room node t s h
  constructor
  case mp =>
    intro he
    unfold schema at he
    split at he
    case h_1 =>
      cases h
      cases schemaNamed_eq_ok he
      exact .name _ s
    case h_4 =>
      cases h
      case object hm =>
        cases hm.schema_eq_ok_iff.1 he
        exact .key _ s
    all_goals cases he
  case mpr =>
    intro hs
    cases hs <;> cases h
    case name       => simp [schema, schemaNamed]
    case key hm => simpa [schema] using hm.schema_eq_ok_iff.2 rfl

end Scalars

section Containers

variable {α : Type} {decode : Decoder α} {R : Nat → Tree → α → Prop} {read : Node → Except Fault α}
  {S : Tree → α → Prop}

-- `null` makes nothing, and everything else what it would make anyway.
inductive Optionally (R : Tree → α → Prop) : Tree → Option α → Prop
  | none : Optionally R .null none
  | some {t a} (hn : t ≠ .null) (h : R t a) : Optionally R t (some a)

theorem Optionally.eq_null_or {S : Tree → α → Prop} {t : Tree} {a : Option α}
    (h : Optionally S t a) : t = .null ∨ ∃ b, S t b ∧ a = Option.some b := by
  cases h
  case none     => exact .inl rfl
  case some _ h => exact .inr ⟨_, h, rfl⟩

theorem Optionally.eq_null_iff {S : Tree → α → Prop} {t : Tree} {a : Option α}
    (h : Optionally S t a) : t = .null ↔ a = Option.none := by
  cases h
  case none      => simp
  case some hn _ => simp [hn]

theorem Optionally.rightUnique {S : Tree → α → Prop} (hs : Relator.RightUnique S) :
    Relator.RightUnique (Optionally S) := by
  intro t a a' h h'
  cases h
  case none => exact (h'.eq_null_iff.1 rfl).symm
  case some hn h =>
    rcases h'.eq_null_or with rfl | ⟨b, hb, rfl⟩
    case inl => exact absurd rfl hn
    case inr => rw [hs h hb]

theorem Node.Holds.eq_null_iff {node : Node} {t : Tree} (h : node.Holds t) :
    (∃ span, node = .null span) ↔ t = .null := by
  cases h <;> simp

theorem Decoder.Makes.optional (hd : decode.Makes R) :
    (Json.optional decode).Makes fun room => Optionally (R room) := by
  intro room node t a h
  unfold Json.optional
  split
  case h_1 =>
    cases h.eq_null_iff.1 ⟨_, rfl⟩
    constructor
    case mp  => rintro ⟨⟩; exact .none
    case mpr =>
      intro ho
      cases ho
      case none       => rfl
      case some hn _ => exact absurd rfl hn
  case h_2 hn =>
    have hn : t ≠ .null := fun ht => (h.eq_null_iff.2 ht).elim hn
    simp only [map_eq_ok_iff, hd _ h]
    constructor
    case mp  => rintro ⟨b, hb, rfl⟩; exact .some hn hb
    case mpr =>
      intro ho
      cases ho
      case none       => exact absurd rfl hn
      case some b _ hb => exact ⟨b, hb, rfl⟩

theorem Node.Holds.asItem {node : Node} {t : Tree} (h : node.Holds t)
    (read : Node → Except Fault α) : node.asItem read = read node := by
  cases h <;> rfl

theorem Makes.items (hd : Makes read S) {items : Items} {ts : List Tree} {as : List α}
    (h : items.Hold ts) : items.list read = .ok as ↔ List.Forall₂ S ts as := by
  induction ts generalizing items as
  case nil =>
    cases h
    simp [Items.list, listEnd, Except.map, eq_comm]
  case cons t ts hi =>
    cases h
    case item hn hr =>
      simp only [Items.list, hn.asItem, bind_eq_ok_iff, hd hn, hi hr, List.forall₂_cons_left_iff]
      constructor
      case mp  => rintro ⟨a, ha, as, has, ⟨⟩⟩; exact ⟨a, as, ha, has, rfl⟩
      case mpr => rintro ⟨a, as, ha, has, rfl⟩; exact ⟨a, ha, as, has, rfl⟩

-- What is made of a container, whose parts have one container less inside one another.
inductive Nested (R : Nat → Tree → α → Prop) : Nat → Tree → α → Prop
  | intro {room t a} (h : R room t a) : Nested R (room + 1) t a

theorem nested_succ_iff {room : Nat} {t : Tree} {a : α} :
    Nested R (room + 1) t a ↔ R room t a := by
  constructor
  case mp  => rintro ⟨h⟩; exact h
  case mpr => exact .intro

-- An array makes a list, item by item.
inductive IsList (R : Tree → α → Prop) : Tree → List α → Prop
  | intro {ts as} (h : List.Forall₂ R ts as) : IsList R (.array ts) as

theorem IsList.imp {S S' : Tree → α → Prop} {t : Tree} {as : List α} (h : IsList S t as)
    (hs : ∀ t a, S t a → S' t a) : IsList S' t as := by
  cases h
  case intro h => exact .intro (h.imp hs)

theorem Decoder.Makes.listOf (hd : decode.Makes R) :
    (Json.listOf decode).Makes (Nested fun room => IsList (R room)) := by
  intro room node t as h
  constructor
  case mp =>
    intro he
    unfold Json.listOf at he
    split at he
    case h_2 =>
      cases h
      case array hi => exact .intro (.intro (((hd _).items hi).1 he))
    all_goals cases he
  case mpr =>
    rintro ⟨⟨hl⟩⟩
    cases h
    case array hi => exact ((hd _).items hi).2 hl

-- The members of an object under their keys.
abbrev Keyed (R : Tree → α → Prop) : List (String × Tree) → List (String × α) → Prop :=
  List.Forall₂ fun m m' => m'.1 = m.1 ∧ R m.2 m'.2

theorem Makes.members (hd : Makes read S) {members : Members} {ms : List (String × Tree)}
    {as : List (String × α)} (h : members.Hold ms) :
    members.pairs read = .ok as ↔ Keyed S ms as := by
  induction ms generalizing members as
  case nil =>
    cases h
    simp [Members.pairs, objectEnd, Except.map, eq_comm]
  case cons m ms hi =>
    cases h
    case member key _ _ hn hr =>
      simp only [Members.pairs, Node.key, bind_eq_ok_iff, hd hn, hi hr, List.forall₂_cons_left_iff]
      constructor
      case mp  => rintro ⟨_, ⟨⟩, a, ha, as, has, ⟨⟩⟩; exact ⟨(key, a), as, ⟨rfl, ha⟩, has, rfl⟩
      case mpr => rintro ⟨⟨_, a⟩, as, ⟨rfl, ha⟩, has, rfl⟩; exact ⟨_, rfl, a, ha, as, has, rfl⟩

-- An object makes a map. Of members with one key the last counts.
inductive IsMap (R : Tree → α → Prop) : Tree → List (String × α) → Prop
  | intro {ms as} (h : Keyed R ms as) : IsMap R (.object ms) (sortMembers as)

theorem IsMap.exists_keyed {S : Tree → α → Prop} {t : Tree} {as : List (String × α)}
    (h : IsMap S t as) : ∃ ms bs, t = .object ms ∧ Keyed S ms bs ∧ as = sortMembers bs := by
  cases h
  case intro h => exact ⟨_, _, rfl, h, rfl⟩

theorem IsMap.imp {S S' : Tree → α → Prop} {t : Tree} {as : List (String × α)} (h : IsMap S t as)
    (hs : ∀ t a, S t a → S' t a) : IsMap S' t as := by
  cases h
  case intro h => exact .intro (h.imp fun _ _ hm => ⟨hm.1, hs _ _ hm.2⟩)

theorem Keyed.flip {S : Tree → α → Prop} {ms : List (String × Tree)} {as : List (String × α)}
    (h : Keyed S ms as) : List.Forall₂ (fun a m => m.1 = a.1 ∧ S m.2 a.2) as ms :=
  (List.Forall₂.flip h).imp fun _ _ hm => ⟨hm.1.symm, hm.2⟩

-- Each member that counts makes one of the map, and these are all.
theorem IsMap.exists_mem {S : Tree → α → Prop} {ms : List (String × Tree)} {as : List (String × α)}
    (h : IsMap S (.object ms) as) {key : String} {t : Tree} (hc : Counts key t ms) :
    ∃ a, (key, a) ∈ as ∧ S t a := by
  cases h
  case intro h =>
    obtain ⟨a, ha, hs⟩ := hc.of_forall₂ (R := fun _ => S) h
    exact ⟨a, mem_sortMembers_iff.2 ha, hs⟩

theorem IsMap.exists_counts {S : Tree → α → Prop} {ms : List (String × Tree)}
    {as : List (String × α)} (h : IsMap S (.object ms) as) {key : String} {a : α}
    (ha : (key, a) ∈ as) : ∃ t, Counts key t ms ∧ S t a := by
  cases h
  case intro h => exact (mem_sortMembers_iff.1 ha).of_forall₂ (R := fun _ a t => S t a) h.flip

theorem Decoder.Makes.mapOf (hd : decode.Makes R) :
    (Json.mapOf decode).Makes (Nested fun room => IsMap (R room)) := by
  intro room node t as h
  constructor
  case mp =>
    intro he
    unfold Json.mapOf at he
    split at he
    case h_2 =>
      cases h
      case object hm =>
        obtain ⟨as, has, rfl⟩ := map_eq_ok_iff.1 he
        exact .intro (.intro (((hd _).members hm).1 has))
    all_goals cases he
  case mpr =>
    rintro ⟨⟨hms⟩⟩
    cases h
    case object hm => exact map_eq_ok_iff.2 ⟨_, ((hd _).members hm).2 hms, rfl⟩

end Containers

section Values

-- The value of a tree in which there are no more containers inside one another than there is room.
def Tree.Denotes : Nat → Tree → Value → Prop
  | _, .null, v             => v = .null
  | _, .bool b, v           => v = .bool b
  | _, .number n, v         => ∃ x, n.value = .ok x ∧ v = .number x
  | _, .string s, v         => v = .string s
  | 0, .array _, _          => False
  | 0, .object _, _         => False
  | room + 1, .array ts, v  => ∃ vs, List.Forall₂ (Denotes room) ts vs ∧ v = .array vs
  | room + 1, .object ms, v => ∃ vs, Keyed (Denotes room) ms vs ∧ v = .object (sortMembers vs)

theorem Items.values_eq_list (room : Nat) :
    (items : Items) → items.values room = items.list (Node.value room)
  | .ended _ _ => rfl
  | .item node rest => by
    rw [Items.values, Items.list, values_eq_list room rest, Node.asItem]
    cases node.trailingComma? <;> rfl

theorem Members.values_eq_pairs (room : Nat) :
    (members : Members) → members.values room = members.pairs (Node.value room)
  | .ended _ _           => rfl
  | .bare _ _ _          => rfl
  | .member _ _ _ _ rest => by rw [Members.values, Members.pairs, values_eq_pairs room rest]

theorem anyValue_makes : anyValue.Makes Tree.Denotes := by
  intro room
  induction room
  all_goals
    intro node t v h
    cases h
    case null   => simp [anyValue, Tree.Denotes, eq_comm]
    case bool   => simp [anyValue, Node.value, Tree.Denotes, eq_comm]
    case string => simp [anyValue, Tree.Denotes, Except.map, eq_comm]
    case number =>
      simp only [anyValue, Node.value_number, Tree.Denotes, map_eq_ok_iff, numberAt_eq_ok_iff]
      simp only [eq_comm]
  case zero.array  => simp [anyValue, Node.value, Tree.Denotes]
  case zero.object => simp [anyValue, Node.value, Tree.Denotes]
  case succ.array room hi _ _ _ h =>
    simp only [anyValue, Node.value, Items.values_eq_list, map_eq_ok_iff, Tree.Denotes]
    simp only [show Node.value = anyValue from rfl, hi.items h, eq_comm]
  case succ.object room hi _ _ _ h =>
    simp only [anyValue, Node.value, Members.values_eq_pairs, map_eq_ok_iff, Tree.Denotes]
    simp only [show Node.value = anyValue from rfl, hi.members h, eq_comm]

end Values

-- A text is read as its trees tell.
theorem Decoder.Makes.ofText_eq_ok_iff {α : Type} {decode : Decoder α} {R : Nat → Tree → α → Prop}
    (hd : decode.Makes R) {t : Tree} {text : String} (ht : t.HasText text) {a : α} :
    decodeText decode text = .ok a ↔ R maxOpen t a := by
  obtain ⟨node, offset, hdoc, hn⟩ := ht.ofText_eq
  rw [← hd maxOpen hn, decodeText, hdoc, Document.decode, bind_eq_ok_iff]
  simp [pure, Except.pure]

end ChainHost.Json
