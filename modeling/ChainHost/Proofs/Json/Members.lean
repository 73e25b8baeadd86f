import ChainHost.Json.Value
import Mathlib.Data.List.Forall2

namespace ChainHost.Json

variable {α β : Type} {members : List (String × α)} {key : String}

theorem SortedKeys.nodup (h : SortedKeys members) : (members.map Prod.fst).Nodup :=
  List.Pairwise.imp String.ne_of_lt h

theorem findMember?_eq_some_iff {value : α} (h : (members.map Prod.fst).Nodup) :
    findMember? key members = some value ↔ (key, value) ∈ members := by
  induction members
  case nil => simp [findMember?]
  case cons m rest hi =>
    obtain ⟨hm, h⟩ := List.nodup_cons.1 h
    simp only [findMember?, List.mem_cons]
    split
    case isTrue hk =>
      cases hk
      have hr : (m.1, value) ∉ rest := fun hr => hm (List.mem_map.2 ⟨_, hr, rfl⟩)
      simp [hr, Prod.ext_iff, eq_comm]
    case isFalse hk =>
      have hne : (key, value) ≠ m := fun he => hk (congrArg Prod.fst he).symm
      rw [hi h]
      exact ⟨.inr, fun h => h.resolve_left hne⟩

theorem findMember?_eq_none_iff :
    findMember? key members = none ↔ key ∉ members.map Prod.fst := by
  induction members
  case nil => simp [findMember?]
  case cons m rest hi =>
    simp only [findMember?, List.map_cons, List.mem_cons, not_or]
    split
    case isTrue hk  => simp [hk]
    case isFalse hk => simp [hi, Ne.symm hk]

theorem mem_insertMember {m : String × α} {value : α} (h : m ∈ insertMember key value members) :
    m = (key, value) ∨ m ∈ members := by
  induction members
  case nil => simpa [insertMember] using h
  case cons m' rest hi =>
    unfold insertMember at h
    split at h
    case isTrue => simpa using h
    case isFalse =>
      split at h
      case isTrue => exact (List.mem_cons.1 h).imp_right (List.mem_cons_of_mem m')
      case isFalse =>
        rcases List.mem_cons.1 h with rfl | h
        · exact .inr List.mem_cons_self
        · exact (hi h).imp_right (List.mem_cons_of_mem m')

-- A member with a new key is added to the others.
theorem insertMember_perm {value : α} (h : key ∉ members.map Prod.fst) :
    (insertMember key value members).Perm ((key, value) :: members) := by
  induction members
  case nil => exact .refl _
  case cons m rest hi =>
    obtain ⟨hm, hr⟩ := not_or.1 (List.mem_cons.not.1 h)
    unfold insertMember
    split
    case isTrue => exact .refl _
    case isFalse => exact ((hi hr).cons m).trans (.swap _ _ _)

theorem SortedKeys.eq_of_perm {members' : List (String × α)} (h : SortedKeys members)
    (h' : SortedKeys members') (hp : members.Perm members') : members = members' := by
  rw [SortedKeys, List.pairwise_map] at h h'
  exact hp.eq_of_pairwise (fun _ _ _ _ hlt hgt => absurd hgt (String.lt_asymm hlt)) h h'

theorem sortedKeys_sortMembers : SortedKeys (sortMembers members) :=
  List.foldlRecOn members _ (motive := SortedKeys) List.Pairwise.nil fun _ h _ _ => h.insertMember

theorem mem_of_mem_sortMembers {m : String × α} (h : m ∈ sortMembers members) : m ∈ members :=
  List.foldlRecOn members _ (motive := fun sorted => ∀ m ∈ sorted, m ∈ members) (by simp)
    (fun _ hs a ha _ hm => (mem_insertMember hm).elim (· ▸ ha) (hs _)) m h

theorem foldl_insertMember_perm {sorted : List (String × α)}
    (h : ((sorted ++ members).map Prod.fst).Nodup) :
    (members.foldl (fun sorted m => insertMember m.1 m.2 sorted) sorted).Perm
      (sorted ++ members) := by
  induction members generalizing sorted
  case nil => simp
  case cons m rest hi =>
    have hmiddle : (sorted ++ m :: rest).Perm (m :: (sorted ++ rest)) := List.perm_middle
    have hn := (hmiddle.map Prod.fst).nodup_iff.1 h
    have hm : m.1 ∉ (sorted ++ rest).map Prod.fst := (List.nodup_cons.1 hn).1
    rw [List.map_append, List.mem_append, not_or] at hm
    have hins : (insertMember m.1 m.2 sorted ++ rest).Perm (m :: (sorted ++ rest)) :=
      (insertMember_perm hm.1).append_right rest
    exact (hi ((hins.map Prod.fst).nodup_iff.2 hn)).trans (hins.trans hmiddle.symm)

theorem sortMembers_perm (h : (members.map Prod.fst).Nodup) : (sortMembers members).Perm members :=
  foldl_insertMember_perm (List.nil_append members ▸ h)

-- Where no key stands twice, the order of the members does not matter.
theorem findMember?_of_perm {members' : List (String × α)} (h : (members.map Prod.fst).Nodup)
    (hp : members.Perm members') (key : String) :
    findMember? key members = findMember? key members' := by
  have h' : (members'.map Prod.fst).Nodup := (hp.map Prod.fst).nodup_iff.1 h
  ext value
  rw [findMember?_eq_some_iff h, findMember?_eq_some_iff h', hp.mem_iff]

theorem findMember?_sortMembers (h : (members.map Prod.fst).Nodup) (key : String) :
    findMember? key (sortMembers members) = findMember? key members :=
  findMember?_of_perm sortedKeys_sortMembers.nodup (sortMembers_perm h) key

theorem findMember?_map (f : α → β) (members : List (String × α)) (key : String) :
    findMember? key (members.map fun m => (m.1, f m.2)) = (findMember? key members).map f := by
  induction members
  case nil => rfl
  case cons m rest hi =>
    simp only [List.map_cons, findMember?, hi]
    split <;> rfl

section Counting

-- A member counts if no other one with its key follows.
inductive Counts (key : String) (value : α) : List (String × α) → Prop
  | here {rest} (h : key ∉ rest.map Prod.fst) : Counts key value ((key, value) :: rest)
  | later {m rest} (h : Counts key value rest) : Counts key value (m :: rest)

variable {value : α}

theorem counts_cons_iff {m : String × α} : Counts key value (m :: members) ↔
    Counts key value members ∨ (key ∉ members.map Prod.fst ∧ m = (key, value)) := by
  constructor
  case mp =>
    intro h
    cases h
    case here h  => exact .inr ⟨h, rfl⟩
    case later h => exact .inl h
  case mpr =>
    rintro (h | ⟨h, rfl⟩)
    case inl => exact .later h
    case inr => exact .here h

theorem findMember?_foldl_insertMember {sorted : List (String × α)} :
    findMember? key (members.foldl (fun sorted m => insertMember m.1 m.2 sorted) sorted) =
        some value ↔
      Counts key value members ∨
        (key ∉ members.map Prod.fst ∧ findMember? key sorted = some value) := by
  induction members generalizing sorted
  case nil => simpa using fun h : Counts key value [] => nomatch h
  case cons m rest hi =>
    rw [List.foldl_cons, hi, counts_cons_iff, findMember?_insertMember, List.map_cons, List.mem_cons]
    by_cases hk : m.1 = key
    case pos => subst hk; simp [Prod.ext_iff]
    case neg =>
      have hm : m ≠ (key, value) := fun hm => hk (congrArg Prod.fst hm)
      simp [hk, hm, Ne.symm hk]

-- Of members that are sorted, those that count are found.
theorem findMember?_sortMembers_eq_some_iff :
    findMember? key (sortMembers members) = some value ↔ Counts key value members := by
  rw [sortMembers, findMember?_foldl_insertMember]
  simp [findMember?]

theorem mem_sortMembers_iff : (key, value) ∈ sortMembers members ↔ Counts key value members := by
  rw [← findMember?_eq_some_iff sortedKeys_sortMembers.nodup, findMember?_sortMembers_eq_some_iff]

end Counting

section Making

variable {R : String → α → β → Prop} {made : List (String × β)}

theorem keys_of_forall₂ (h : List.Forall₂ (fun m m' => m'.1 = m.1 ∧ R m.1 m.2 m'.2) members made) :
    made.map Prod.fst = members.map Prod.fst := by
  induction h
  case nil => rfl
  case cons hm _ hi => rw [List.map_cons, List.map_cons, hm.1, hi]

-- Where members are treated one by one and keep their keys, looking up gives what was made of the
-- member that looking up gave before.
theorem findMember?_of_forall₂
    (h : List.Forall₂ (fun m m' => m'.1 = m.1 ∧ R m.1 m.2 m'.2) members made) (key : String) :
    (findMember? key members = none ∧ findMember? key made = none) ∨
      ∃ a b, findMember? key members = some a ∧ findMember? key made = some b ∧ R key a b := by
  induction h
  case nil => exact .inl ⟨rfl, rfl⟩
  case cons m m' rest rest' hm _ hi =>
    obtain ⟨hk, hr⟩ := hm
    simp only [findMember?, hk]
    split
    case isTrue he => exact .inr ⟨m.2, m'.2, rfl, rfl, he ▸ hr⟩
    case isFalse   => exact hi

theorem Counts.of_forall₂ {a : α}
    (h : List.Forall₂ (fun m m' => m'.1 = m.1 ∧ R m.1 m.2 m'.2) members made)
    (hc : Counts key a members) : ∃ b, Counts key b made ∧ R key a b := by
  induction hc generalizing made
  case here rest hk =>
    cases h
    case cons m' rest' hm hr =>
      have hkeys := keys_of_forall₂ hr
      cases m'
      cases hm.1
      exact ⟨_, .here (hkeys ▸ hk), hm.2⟩
  case later hi =>
    cases h
    case cons hr =>
      obtain ⟨b, hc, hb⟩ := hi hr
      exact ⟨b, .later hc, hb⟩

end Making
end ChainHost.Json
