import ChainHost.Proofs.Json.Fields
import Mathlib.Data.List.Perm.Basic

namespace ChainHost.Json

mutual

-- Trees that are the same up to the order of members, of which no two in an object have one key. How
-- a number is written does not matter.
inductive Tree.Reordered : Tree → Tree → Prop
  | null : Tree.Reordered .null .null
  | bool (b : Bool) : Tree.Reordered (.bool b) (.bool b)
  | number {n n'} (h : n.value = n'.value) : Tree.Reordered (.number n) (.number n')
  | string (s : String) : Tree.Reordered (.string s) (.string s)
  | array {ts ts'} (h : List.Forall₂ Tree.Reordered ts ts') :
    Tree.Reordered (.array ts) (.array ts')
  | object {ms ms₁ ms'} (hn : (ms.map Prod.fst).Nodup) (h : List.Forall₂ Member.Reordered ms ms₁)
    (hp : ms₁.Perm ms') : Tree.Reordered (.object ms) (.object ms')

inductive Member.Reordered : String × Tree → String × Tree → Prop
  | intro {key t t'} (h : Tree.Reordered t t') : Member.Reordered (key, t) (key, t')

end

-- What tells of trees the same, whatever the order of members.
def Orderless {α : Type} (R : Tree → α → Prop) : Prop :=
  ∀ ⦃t t' : Tree⦄, t.Reordered t' → ∀ a, R t a ↔ R t' a

section Members

variable {ms ms' : List (String × Tree)}

theorem keys_of_reordered (h : List.Forall₂ Member.Reordered ms ms') :
    ms.map Prod.fst = ms'.map Prod.fst := by
  induction h
  case nil => rfl
  case cons h _ hi =>
    cases h
    rw [List.map_cons, List.map_cons, hi]

end Members

section Scalars

variable {t t' : Tree}

theorem Tree.Reordered.eq_null_iff (h : t.Reordered t') : t = .null ↔ t' = .null := by
  cases h <;> simp

theorem isString_orderless : Orderless Tree.IsString := by
  intro t t' h s
  cases h <;> simp [Tree.IsString]

theorem isSize_orderless : Orderless Tree.IsSize := by
  intro t t' h k
  cases h
  case number h => simp [Tree.IsSize, h]
  all_goals simp [Tree.IsSize]

theorem isSchema_orderless (room : Nat) : Orderless (Tree.IsSchema room) := by
  intro t t' h s
  constructor
  case mp =>
    intro hs
    cases hs
    case name => cases h; exact .name room s
    case key =>
      match h with
      | .object _ (.cons (.intro .null) .nil) hp =>
        cases List.perm_singleton.1 hp.symm
        exact .key _ s
  case mpr =>
    intro hs
    cases hs
    case name => cases h; exact .name room s
    case key =>
      match h with
      | .object _ h hp =>
        cases List.perm_singleton.1 hp
        match h with
        | .cons (.intro .null) .nil => exact .key _ s

end Scalars

section Containers

variable {α : Type} {R : Tree → α → Prop}

theorem Orderless.optionally (hR : Orderless R) : Orderless (Optionally R) := by
  intro t t' h a
  constructor
  case mp =>
    intro ho
    cases ho
    case none      => exact h.eq_null_iff.1 rfl ▸ .none
    case some hn h' => exact .some (mt h.eq_null_iff.2 hn) ((hR h _).1 h')
  case mpr =>
    intro ho
    cases ho
    case none      => exact h.eq_null_iff.2 rfl ▸ .none
    case some hn h' => exact .some (mt h.eq_null_iff.1 hn) ((hR h _).2 h')

theorem Orderless.nested {R : Nat → Tree → α → Prop} (hR : ∀ room, Orderless (R room)) (room : Nat) :
    Orderless (Nested R room) := by
  intro t t' h a
  constructor
  case mp  => rintro ⟨hr⟩; exact .intro ((hR _ h a).1 hr)
  case mpr => rintro ⟨hr⟩; exact .intro ((hR _ h a).2 hr)

theorem Orderless.items (hR : Orderless R) {ts ts' : List Tree}
    (h : List.Forall₂ Tree.Reordered ts ts') (as : List α) :
    List.Forall₂ R ts as ↔ List.Forall₂ R ts' as := by
  induction h generalizing as
  case nil => rfl
  case cons h _ hi => simp only [List.forall₂_cons_left_iff, hR h, hi]

theorem Orderless.members (hR : Orderless R) {ms ms' : List (String × Tree)}
    (h : List.Forall₂ Member.Reordered ms ms') (as : List (String × α)) :
    Keyed R ms as ↔ Keyed R ms' as := by
  induction h generalizing as
  case nil => rfl
  case cons h _ hi =>
    cases h
    case intro h => simp only [List.forall₂_cons_left_iff, hR h, hi]

theorem Orderless.isList (hR : Orderless R) : Orderless (IsList R) := by
  intro t t' h as
  cases h
  case array h =>
    constructor
    case mp  => rintro ⟨hl⟩; exact .intro ((hR.items h as).1 hl)
    case mpr => rintro ⟨hl⟩; exact .intro ((hR.items h as).2 hl)
  all_goals exact ⟨nofun, nofun⟩

theorem sortMembers_of_perm {as as' : List (String × α)} (hn : (as.map Prod.fst).Nodup)
    (hp : as.Perm as') : sortMembers as = sortMembers as' := by
  have hn' : (as'.map Prod.fst).Nodup := (hp.map Prod.fst).nodup_iff.1 hn
  refine sortedKeys_sortMembers.eq_of_perm sortedKeys_sortMembers ?_
  exact (sortMembers_perm hn).trans (hp.trans (sortMembers_perm hn').symm)

-- A map that is made of members is made of them in each order.
theorem Keyed.perm {ms ms' : List (String × Tree)} {as : List (String × α)} (h : Keyed R ms as)
    (hn : (ms.map Prod.fst).Nodup) (hp : ms.Perm ms') :
    ∃ as', Keyed R ms' as' ∧ sortMembers as' = sortMembers as := by
  obtain ⟨as', h', hp'⟩ := List.perm_comp_forall₂ hp.symm h
  refine ⟨as', h', (sortMembers_of_perm ?_ hp'.symm).symm⟩
  rw [keys_of_forall₂ (R := fun _ => R) h]
  exact hn

theorem Orderless.isMap (hR : Orderless R) : Orderless (IsMap R) := by
  intro t t' h as
  cases h
  case object ms ms₁ ms' hn h hp =>
    have hn₁ : (ms₁.map Prod.fst).Nodup := keys_of_reordered h ▸ hn
    constructor
    case mp =>
      rintro ⟨hm⟩
      obtain ⟨as', hm', he⟩ := ((hR.members h _).1 hm).perm hn₁ hp
      exact he ▸ .intro hm'
    case mpr =>
      rintro ⟨hm⟩
      obtain ⟨as', hm', he⟩ := hm.perm ((hp.map Prod.fst).nodup_iff.1 hn₁) hp.symm
      exact he ▸ .intro ((hR.members h _).2 hm')
  all_goals exact ⟨nofun, nofun⟩

end Containers

section Values

theorem Tree.denotes_object_iff {room : Nat} {ms : List (String × Tree)} {v : Value} :
    Denotes (room + 1) (.object ms) v ↔
      ∃ vs, IsMap (Denotes room) (.object ms) vs ∧ v = .object vs := by
  constructor
  case mp  => rintro ⟨vs, h, rfl⟩; exact ⟨_, .intro h, rfl⟩
  case mpr => rintro ⟨_, ⟨h⟩, rfl⟩; exact ⟨_, h, rfl⟩

theorem denotes_orderless (room : Nat) : Orderless (Tree.Denotes room) := by
  induction room
  all_goals
    intro t t' h v
    cases h
    case null | bool | string => rfl
    case number h => simp [Tree.Denotes, h]
  case zero.array | zero.object => rfl
  case succ.array hi _ _ h => simp only [Tree.Denotes, hi.items h]
  case succ.object hi _ _ _ hn h hp =>
    simp only [Tree.denotes_object_iff, hi.isMap (.object hn h hp)]

end Values

namespace Layout

variable {σ α : Type} {l : Layout σ α} {P : String → Tree → σ → σ → Prop} {t t' : Tree}
  {ms ms' : List (String × Tree)} {draft draft' : σ}

-- Members with different keys do the same to a draft in either order.
def Commutes (P : String → Tree → σ → σ → Prop) : Prop :=
  ∀ ⦃key key' t t' draft draft₁ draft₂⦄, key ≠ key' → P key t draft draft₁ →
    P key' t' draft₁ draft₂ → ∃ draft', P key' t' draft draft' ∧ P key t draft' draft₂

theorem zip_reordered (names : List String) {ts ts' : List Tree}
    (h : List.Forall₂ Tree.Reordered ts ts') :
    List.Forall₂ Member.Reordered (names.zip ts) (names.zip ts') := by
  induction h generalizing names
  case nil => simp
  case cons h _ hi =>
    cases names
    case nil             => exact .nil
    case cons name names => exact .cons (.intro h) (hi names)

theorem fields_reordered (h : t.Reordered t') (names : List String) :
    ∃ ms, List.Forall₂ Member.Reordered (t.fields names) ms ∧ ms.Perm (t'.fields names) := by
  match h with
  | .object _ h hp => exact ⟨_, h, hp⟩
  | .array h       => exact ⟨_, zip_reordered names h, .refl _⟩
  | .null | .bool _ | .number _ | .string _ => exact ⟨[], .nil, .refl _⟩

theorem StandsIn.of_keys (h : l.StandsIn (.object ms))
    (hp : (ms.map Prod.fst).Perm (ms'.map Prod.fst)) : l.StandsIn (.object ms') := by
  cases h
  case object hk hn =>
    refine .object (fun m hm => ?_) (hp.nodup_iff.1 hn)
    obtain ⟨m', hm', he⟩ := List.mem_map.1 (hp.mem_iff.2 (List.mem_map_of_mem hm))
    exact he ▸ hk m' hm'

theorem standsIn_iff (h : t.Reordered t') : l.StandsIn t ↔ l.StandsIn t' := by
  match h with
  | .object _ h hp =>
    have hp := keys_of_reordered h ▸ hp.map Prod.fst
    exact ⟨fun hs => hs.of_keys hp, fun hs => hs.of_keys hp.symm⟩
  | .array h =>
    have hl := h.length_eq
    exact ⟨fun | .array hs => .array (hl ▸ hs), fun | .array hs => .array (hl ▸ hs)⟩
  | .null | .bool _ | .number _ | .string _ => exact ⟨nofun, nofun⟩

theorem gathers_iff (hP : ∀ key draft, Orderless (P key · draft))
    (h : List.Forall₂ Member.Reordered ms ms') :
    Gathers P ms draft draft' ↔ Gathers P ms' draft draft' := by
  induction h generalizing draft
  case nil => rfl
  case cons h _ hi =>
    cases h
    case intro h => simp only [gathers_cons_iff, hP _ _ h, hi]

theorem Gathers.perm (hc : Commutes P) (h : Gathers P ms draft draft')
    (hn : (ms.map Prod.fst).Nodup) (hp : ms.Perm ms') : Gathers P ms' draft draft' := by
  induction hp generalizing draft
  case nil => exact h
  case cons m ms ms' _ hi =>
    cases h
    case cons h hr => exact .cons h (hi hr (List.nodup_cons.1 hn).2)
  case swap m m' ms =>
    match h with
    | .cons h (.cons h' hr) =>
      have hk : m'.1 ≠ m.1 := fun hk => (List.nodup_cons.1 hn).1 (hk ▸ List.mem_cons_self)
      obtain ⟨_, h', h⟩ := hc hk h h'
      exact .cons h' (.cons h hr)
  case trans hp _ hi hi' => exact hi' (hi h hn) ((hp.map Prod.fst).nodup_iff.1 hn)

-- What is made of a record does not depend on the order of members in it, if that is so for each of
-- its fields.
theorem made_orderless (hl : l.names.Nodup) (hP : ∀ key draft, Orderless (P key · draft))
    (hc : Commutes P) : Orderless (l.Made P) := by
  intro t t' h a
  obtain ⟨ms, hms, hp⟩ := fields_reordered h l.names
  constructor
  case mp =>
    rintro ⟨hs, hg, hf⟩
    have hn := hs.nodup hl
    rw [keys_of_reordered hms] at hn
    exact .intro ((standsIn_iff h).1 hs) (((gathers_iff hP hms).1 hg).perm hc hn hp) hf
  case mpr =>
    rintro ⟨hs, hg, hf⟩
    exact .intro ((standsIn_iff h).2 hs)
      ((gathers_iff hP hms).2 (hg.perm hc (hs.nodup hl) hp.symm)) hf

end Layout
end ChainHost.Json
