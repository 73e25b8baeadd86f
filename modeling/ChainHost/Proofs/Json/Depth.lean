import ChainHost.Proofs.Json.RoundTrip

namespace ChainHost.Json

namespace Value

mutual

-- The number of containers that stand inside one another.
def depth : Value → ℕ
  | array items                         => depthOfItems items + 1
  | object members                      => depthOfMembers members + 1
  | null | bool _ | number _ | string _ => 0

def depthOfItems : List Value → ℕ
  | []            => 0
  | item :: items => max item.depth (depthOfItems items)

def depthOfMembers : List (String × Value) → ℕ
  | []                    => 0
  | (_, value) :: members => max value.depth (depthOfMembers members)

end

variable {v : Value} {room room' : ℕ}

theorem depth_array_le_iff {items : List Value} :
    (array items).depth ≤ room + 1 ↔ ∀ v ∈ items, v.depth ≤ room := by
  rw [depth, Nat.add_le_add_iff_right]
  induction items
  case nil             => simp [depthOfItems]
  case cons v items hi => simp [depthOfItems, hi]

theorem depth_object_le_iff {members : List (String × Value)} :
    (object members).depth ≤ room + 1 ↔ ∀ m ∈ members, m.2.depth ≤ room := by
  rw [depth, Nat.add_le_add_iff_right]
  induction members
  case nil               => simp [depthOfMembers]
  case cons m members hi => simp [depthOfMembers, hi]

theorem Readable.depth_le (h : v.Readable room) : v.depth ≤ room := by
  induction v using Value.induction generalizing room
  case null | bool | string | number => exact Nat.zero_le room
  case array items hi =>
    cases room
    case zero      => cases h
    case succ room => exact depth_array_le_iff.2 fun v hv => hi v hv (h v hv)
  case object members hm =>
    cases room
    case zero      => cases h
    case succ room => exact depth_object_le_iff.2 fun m hm' => hm m hm' (h.2 m hm')

-- What can be read somewhere can be read wherever there is room for its depth.
theorem Readable.of_depth_le (h : v.Readable room) (hd : v.depth ≤ room') : v.Readable room' := by
  induction v using Value.induction generalizing room room'
  case null | bool | string => cases room' <;> trivial
  case number n             => cases room <;> cases room' <;> exact h
  case array items hi =>
    cases room
    case zero => cases h
    case succ room =>
      cases room'
      case zero       => cases hd
      case succ room' => exact fun v hv => hi v hv (h v hv) (depth_array_le_iff.1 hd v hv)
  case object members hm =>
    cases room
    case zero => cases h
    case succ room =>
      cases room'
      case zero => cases hd
      case succ room' =>
        exact ⟨h.1, fun m hm' => hm m hm' (h.2 m hm') (depth_object_le_iff.1 hd m hm')⟩

end Value

section Refusals

variable {α : Type} {read : Node → Except Fault α}

-- A result that is refused because it is nested too deeply.
def TooDeep (r : Except Fault α) : Prop :=
  ∃ f, r = .error f ∧ f.reason = .tooDeep

theorem TooDeep.bind {β : Type} {r : Except Fault α} (h : TooDeep r) (f : α → Except Fault β) :
    TooDeep (r >>= f) := by
  obtain ⟨e, rfl, he⟩ := h
  exact ⟨e, rfl, he⟩

theorem TooDeep.map {β : Type} {r : Except Fault α} (h : TooDeep r) (f : α → β) :
    TooDeep (r.map f) := by
  obtain ⟨e, rfl, he⟩ := h
  exact ⟨e, rfl, he⟩

-- Items of which one is too deep, and those before it are read.
theorem Items.Hold.tooDeep {items : Items} {ts : List Tree} (h : items.Hold ts)
    (hr : ∀ t ∈ ts, ∀ node : Node, node.Holds t → (∃ a, read node = .ok a) ∨ TooDeep (read node))
    (hd : ∃ t ∈ ts, ∀ node : Node, node.Holds t → TooDeep (read node)) :
    TooDeep (items.list read) := by
  induction ts generalizing items
  case nil => simp at hd
  case cons t ts hi =>
    cases h
    case item hn hrest =>
      obtain ⟨hr, hrs⟩ := List.forall_mem_cons.1 hr
      rw [Items.list, hn.asItem]
      rcases hr _ hn with ⟨a, ha⟩ | hr
      case inr => exact hr.bind _
      case inl =>
        obtain ⟨t', ht, hd⟩ := hd
        rcases List.mem_cons.1 ht with rfl | ht
        case inl => exact (hd _ hn).bind _
        case inr =>
          rw [ha]
          exact (hi hrest hrs ⟨t', ht, hd⟩).bind _

theorem Members.Hold.tooDeep {members : Members} {ms : List (String × Tree)} (h : members.Hold ms)
    (hr : ∀ m ∈ ms, ∀ node : Node, node.Holds m.2 → (∃ a, read node = .ok a) ∨ TooDeep (read node))
    (hd : ∃ m ∈ ms, ∀ node : Node, node.Holds m.2 → TooDeep (read node)) :
    TooDeep (members.pairs read) := by
  induction ms generalizing members
  case nil => simp at hd
  case cons m ms hi =>
    cases h
    case member hn hrest =>
      obtain ⟨hr, hrs⟩ := List.forall_mem_cons.1 hr
      rw [Members.pairs]
      dsimp only [Node.key, bind, Except.bind]
      rcases hr _ hn with ⟨a, ha⟩ | hr
      case inr => exact hr.bind _
      case inl =>
        obtain ⟨t', ht, hd⟩ := hd
        rcases List.mem_cons.1 ht with rfl | ht
        case inl => exact (hd _ hn).bind _
        case inr =>
          rw [ha]
          exact (hi hrest hrs ⟨t', ht, hd⟩).bind _

variable {v : Value} {room room' : ℕ}

theorem Value.denotes_tree_of_depth (hv : v.Readable room) (hn : ∀ n ∈ v.numbers, n.Settled)
    (hd : v.depth ≤ room') : v.tree.Denotes room' v :=
  denotes_tree (hv.of_depth_le hd) hn

-- A value is read, or else it is too deep.
theorem Value.read_or_tooDeep (hv : v.Readable room) (hn : ∀ n ∈ v.numbers, n.Settled)
    (hi : ∀ node : Node, node.Holds v.tree → room' < v.depth → TooDeep (anyValue room' node))
    {node : Node} (h : node.Holds v.tree) :
    (∃ a, anyValue room' node = .ok a) ∨ TooDeep (anyValue room' node) := by
  rcases Nat.lt_or_ge room' v.depth with hd | hd
  case inl => exact .inr (hi node h hd)
  case inr => exact .inl ⟨v, (anyValue_makes room' h).2 (denotes_tree_of_depth hv hn hd)⟩

theorem Value.tooDeep (hv : v.Readable room) (hn : ∀ n ∈ v.numbers, n.Settled)
    (hd : room' < v.depth) {node : Node} (h : node.Holds v.tree) :
    TooDeep (anyValue room' node) := by
  induction v using Value.induction generalizing room room' node
  case null | bool | string | number => simp [depth] at hd
  case array items hi =>
    rw [tree_array] at h
    cases h
    case array hitems =>
      cases room'
      case zero => exact ⟨_, rfl, rfl⟩
      case succ room' =>
        cases room
        case zero => cases hv
        case succ room =>
          replace hn (v : Value) (h : v ∈ items) (n : Number) (hm : n ∈ v.numbers) :=
            hn n (mem_numbers_array.2 ⟨v, h, hm⟩)
          rw [anyValue, Node.value, Items.values_eq_list]
          refine (hitems.tooDeep ?reads ?deep).map _
          case reads =>
            refine List.forall_mem_map.2 fun v h node => read_or_tooDeep (hv v h) (hn v h) ?_
            exact fun node hnode hd => hi v h (hv v h) (hn v h) hd hnode
          case deep =>
            obtain ⟨v, h, hd⟩ : ∃ v ∈ items, room' < v.depth := by
              simpa using mt depth_array_le_iff.2 (Nat.not_le.2 hd)
            exact ⟨v.tree, List.mem_map_of_mem h, fun node => hi v h (hv v h) (hn v h) hd⟩
  case object members hi =>
    rw [tree_object] at h
    cases h
    case object hmembers =>
      cases room'
      case zero => exact ⟨_, rfl, rfl⟩
      case succ room' =>
        cases room
        case zero => cases hv
        case succ room =>
          replace hn (m : String × Value) (h : m ∈ members) (n : Number) (hm : n ∈ m.2.numbers) :=
            hn n (mem_numbers_object.2 ⟨m, h, hm⟩)
          rw [anyValue, Node.value, Members.values_eq_pairs]
          refine (hmembers.tooDeep ?reads ?deep).map _
          case reads =>
            refine List.forall_mem_map.2 fun m h node => read_or_tooDeep (hv.2 m h) (hn m h) ?_
            exact fun node hnode hd => hi m h (hv.2 m h) (hn m h) hd hnode
          case deep =>
            obtain ⟨m, h, hd⟩ : ∃ m ∈ members, room' < m.2.depth := by
              simpa using mt depth_object_le_iff.2 (Nat.not_le.2 hd)
            exact ⟨_, List.mem_map_of_mem h, fun node => hi m h (hv.2 m h) (hn m h) hd⟩

end Refusals
end ChainHost.Json
