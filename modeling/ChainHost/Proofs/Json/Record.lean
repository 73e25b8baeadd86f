import ChainHost.Json.Record
import ChainHost.Proofs.Json.Members
import ChainHost.Proofs.Reports

namespace ChainHost.Json

namespace Layout

variable {σ α : Type} {l : Layout σ α} {P : σ → Prop} {room : Nat}

-- A property of drafts that reading a further field cannot break.
def Keeps (l : Layout σ α) (P : σ → Prop) : Prop :=
  ∀ f ∈ l.fields, ∀ room node draft draft', P draft → f.read room node draft = .ok draft' → P draft'

theorem mem_fields_of_field? {name : String} {f : Field σ} (h : l.field? name = some f) :
    f ∈ l.fields :=
  List.mem_of_find?_eq_some h

theorem gatherMembers_bare {key : Node} {offset : Nat} {next : Option Char} {seen : List String}
    {draft : σ} {gathered : σ × Nat} :
    l.gatherMembers room (.bare key offset next) seen draft ≠ .ok gathered := by
  intro h
  simp only [Layout.gatherMembers, bind_eq_ok_iff] at h
  obtain ⟨name, _, h⟩ := h
  split at h <;> cases h

theorem Keeps.gatherMembers (hk : l.Keeps P) :
    (members : Members) → (seen : List String) → (draft : σ) → P draft → (gathered : σ × Nat) →
      l.gatherMembers room members seen draft = .ok gathered → P gathered.1
  | .ended offset next, _, _, hd, _, h => by
    simp only [Layout.gatherMembers] at h
    cases he : objectEnd offset next <;> rw [he] at h <;> cases h
    exact hd
  | .bare .., _, _, _, _, h => absurd h gatherMembers_bare
  | .member _ _ _ _ rest, seen, draft, hd, gathered, h => by
    simp only [Layout.gatherMembers, bind_eq_ok_iff] at h
    obtain ⟨name, _, h⟩ := h
    split at h
    case h_1 => cases h
    case h_2 =>
      split at h
      case h_1 f hf =>
        obtain ⟨draft', hr, h⟩ := bind_eq_ok_iff.1 h
        exact hk.gatherMembers rest _ _ (hk f (mem_fields_of_field? hf) _ _ _ _ hd hr) _ h
      case h_2 =>
        obtain ⟨_, _, h⟩ := bind_eq_ok_iff.1 h
        exact hk.gatherMembers rest _ _ hd _ h

theorem Keeps.gatherItems (hk : l.Keeps P) {fields : List (Field σ)} (hf : fields ⊆ l.fields)
    {items : Items} {draft : σ} {gathered : σ × Nat} (hd : P draft)
    (h : Layout.gatherItems room fields items draft = .ok gathered) : P gathered.1 := by
  induction fields generalizing items draft
  case nil =>
    simp only [Layout.gatherItems] at h
    cases he : arrayEnd items <;> rw [he] at h <;> cases h
    exact hd
  case cons f fs hi =>
    obtain ⟨hf, hfs⟩ := List.cons_subset.1 hf
    cases items
    case ended offset next =>
      simp only [Layout.gatherItems] at h
      cases he : listEnd offset next <;> rw [he] at h <;> cases h
      exact hd
    case item node rest =>
      simp only [Layout.gatherItems, Node.asItem, bind_eq_ok_iff] at h
      obtain ⟨draft', hr, h⟩ := h
      split at hr
      case h_1 => cases hr
      case h_2 => exact hi hfs (hk f hf _ _ _ _ hd hr) h

theorem exists_draft_of_close {missing : String → Reason} {gathered : σ × Nat} {a : α}
    (h : l.close missing gathered = .ok a) : l.finish gathered.1 = .ok a := by
  unfold close at h
  split at h
  case h_1 record hr => cases h; exact hr
  case h_2           => cases h

-- A record is made of a draft that has every property which the empty draft has and fields keep.
theorem exists_draft_of_decode (hk : l.Keeps P) (he : P l.empty) {node : Node} {a : α}
    (h : l.decode room node = .ok a) : ∃ draft, P draft ∧ l.finish draft = .ok a := by
  unfold decode at h
  split at h
  case h_3 =>
    obtain ⟨gathered, hg, h⟩ := bind_eq_ok_iff.1 h
    exact ⟨gathered.1, hk.gatherItems (List.Subset.refl _) he hg, exists_draft_of_close h⟩
  case h_4 =>
    obtain ⟨gathered, hg, h⟩ := bind_eq_ok_iff.1 h
    exact ⟨gathered.1, hk.gatherMembers _ _ _ he _ hg, exists_draft_of_close h⟩
  all_goals cases h

end Layout

section Containers

variable {α : Type} {room : Nat} {node : Node}

theorem of_pairs_eq_ok {decode : Node → Except Fault α} :
    (members : Members) → (pairs : List (String × α)) → members.pairs decode = .ok pairs →
      ∀ m ∈ pairs, ∃ node, decode node = .ok m.2
  | .ended offset next, _, h, m, hm => by
    simp only [Members.pairs] at h
    cases he : objectEnd offset next <;> rw [he] at h <;> cases h
    cases hm
  | .bare .., _, h, _, _ => by
    simp only [Members.pairs, bind_eq_ok_iff] at h
    obtain ⟨_, _, h⟩ := h
    cases h
  | .member _ _ value _ rest, pairs, h, m, hm => by
    simp only [Members.pairs, bind_eq_ok_iff] at h
    obtain ⟨key, _, v, hv, tail, ht, h⟩ := h
    cases h
    rcases List.mem_cons.1 hm with rfl | hm
    · exact ⟨value, hv⟩
    · exact of_pairs_eq_ok rest tail ht m hm

theorem of_mapOf_eq_ok {decode : Decoder α} {members : List (String × α)}
    (h : mapOf decode room node = .ok members) :
    SortedKeys members ∧ ∀ m ∈ members, ∃ room node, decode room node = .ok m.2 := by
  unfold mapOf at h
  split at h
  case h_2 room _ ms =>
    cases hp : ms.pairs (decode room) <;> rw [hp] at h <;> cases h
    refine ⟨sortedKeys_sortMembers, fun m hm => ?_⟩
    obtain ⟨node, hn⟩ := of_pairs_eq_ok ms _ hp m (mem_of_mem_sortMembers hm)
    exact ⟨room, node, hn⟩
  all_goals cases h

end Containers
end ChainHost.Json
