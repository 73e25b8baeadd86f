import ChainHost.Proofs.Json.Fields

namespace ChainHost.Json

-- The tree without the members that are under other names.
def Tree.own (names : List String) : Tree → Tree
  | .object ms => .object (ms.filter (·.1 ∈ names))
  | t          => t

theorem Tree.mem_own (names : List String) (t : Tree) :
    ∀ m ∈ (t.own names).fields names, m.1 ∈ names := by
  intro m hm
  cases t
  case object ms => simpa using (List.mem_filter.1 hm).2
  case array ts  => exact (List.of_mem_zip hm).1
  all_goals cases hm

section Skimming

mutual

-- Whatever a value is, it can be skimmed over.
theorem Node.Holds.skim_eq {node : Node} {t : Tree} : node.Holds t → node.skim = .ok ()
  | .null _     => by rw [Node.skim]
  | .bool ..    => by rw [Node.skim]
  | .number ..  => by rw [Node.skim]
  | .string ..  => by rw [Node.skim]
  | .array _ h  => by rw [Node.skim, h.skim_eq]
  | .object _ h => by rw [Node.skim, h.skim_eq]

theorem Items.Hold.skim_eq {items : Items} {ts : List Tree} : items.Hold ts → items.skim = .ok ()
  | .ended _   => by rw [Items.skim, listEnd]
  | .item h hr => by rw [Items.skim, h.skim_eq, hr.skim_eq]; rfl

theorem Members.Hold.skim_eq {members : Members} {ms : List (String × Tree)} :
    members.Hold ms → members.skim = .ok ()
  | .ended _             => by rw [Members.skim, objectEnd]
  | .member _ _ _ _ h hr => by rw [Members.skim, h.skim_eq, hr.skim_eq]; rfl

end

end Skimming

namespace Layout

variable {σ α : Type} {l : Layout σ α} {room : Nat}

theorem field?_eq_none {name : String} (h : name ∉ l.names) : l.field? name = none := by
  cases hf : l.field? name
  case none   => rfl
  case some f => exact absurd (mem_names_of_field? hf) h

theorem gatherMembers_foreign (hs : l.strict = false) {key : String} (hk : key ∉ l.names)
    {value : Node} (hv : value.skim = .ok ()) (span : Span) (colon after : Nat) (rest : Members)
    (seen : List String) (draft : σ) :
    l.gatherMembers room (.member (.string span (.ok key)) colon value after rest) seen draft =
      l.gatherMembers room rest seen draft := by
  have hf := field?_eq_none hk
  have hr : l.refusal? seen key = none := by simp [refusal?, hf, hs]
  simp only [Layout.gatherMembers, Node.key, bind, Except.bind, hr, hf, hv]

-- The members of other names can be taken out, and what is gathered stays the same.
theorem exists_own (hs : l.strict = false) {members : Members} {ms : List (String × Tree)}
    (h : members.Hold ms) :
    ∃ own : Members, own.Hold (ms.filter (·.1 ∈ l.names)) ∧
      ∀ room seen draft,
        l.gatherMembers room members seen draft = l.gatherMembers room own seen draft := by
  induction ms generalizing members
  case nil => exact ⟨members, h, fun _ _ _ => rfl⟩
  case cons m ms hi =>
    cases h
    case member value t rest span key colon after hv hr =>
      obtain ⟨own, hown, he⟩ := hi hr
      by_cases hk : key ∈ l.names
      case neg =>
        rw [List.filter_cons_of_neg (by simpa using hk)]
        refine ⟨own, hown, fun room seen draft => ?_⟩
        rw [gatherMembers_foreign hs hk hv.skim_eq, he]
      case pos =>
        rw [List.filter_cons_of_pos (by simpa using hk)]
        refine ⟨_, .member span key colon after hv hown, fun room seen draft => ?_⟩
        simp only [Layout.gatherMembers, he]

theorem exists_decode_own (hs : l.strict = false) {node : Node} {t : Tree} (h : node.Holds t) :
    ∃ own : Node, own.Holds (t.own l.names) ∧ ∀ room, l.decode room node = l.decode room own := by
  cases h
  case object start hm =>
    obtain ⟨own, hown, he⟩ := exists_own hs hm
    refine ⟨_, .object start hown, fun room => ?_⟩
    cases room
    case zero      => rfl
    case succ room => simp only [decode, he]
  all_goals exact ⟨_, by constructor <;> assumption, fun _ => rfl⟩

theorem FieldsMake.decode_own {F : Nat → String → Tree → σ → σ → Prop} (hl : l.FieldsMake F)
    (hs : l.strict = false) :
    l.decode.Makes fun room t => Nested (fun room => l.Made (F room)) room (t.own l.names) := by
  intro room node t a h
  obtain ⟨own, hown, he⟩ := exists_decode_own hs h
  rw [he]
  exact ⟨hl.made_of_decode hown (.inr (t.mem_own l.names)), hl.decode_of_made hown⟩

end Layout
end ChainHost.Json
