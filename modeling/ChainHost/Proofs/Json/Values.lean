import Mathlib.Data.List.Induction
import ChainHost.Proofs.Json.Members
import ChainHost.Proofs.Json.Numeral

namespace ChainHost.Json

section Values

-- Induction over the items of arrays and the values of objects.
theorem Value.induction {P : Value → Prop} (null : P .null) (bool : ∀ b, P (.bool b))
    (number : ∀ n, P (.number n)) (string : ∀ s, P (.string s))
    (array : ∀ items, (∀ v ∈ items, P v) → P (.array items))
    (object : ∀ members, (∀ m ∈ members, P m.2) → P (.object members)) : (v : Value) → P v
  | .null           => null
  | .bool b         => bool b
  | .number n       => number n
  | .string s       => string s
  | .array items    => array items fun v _ => induction null bool number string array object v
  | .object members => object members fun m h =>
    have : sizeOf m < sizeOf members := List.sizeOf_lt_of_mem h
    have : sizeOf m = 1 + sizeOf m.1 + sizeOf m.2 := rfl
    induction null bool number string array object m.2

namespace Value

mutual

-- All numbers of a value.
def numbers : Value → List Number
  | number n                 => [n]
  | array items              => numbersOfItems items
  | object members           => numbersOfMembers members
  | null | bool _ | string _ => []

def numbersOfItems : List Value → List Number
  | []            => []
  | item :: items => item.numbers ++ numbersOfItems items

def numbersOfMembers : List (String × Value) → List Number
  | []                    => []
  | (_, value) :: members => value.numbers ++ numbersOfMembers members

end

-- What can be read where there is room for so many containers inside one another.
def Readable : Nat → Value → Prop
  | _, null | _, bool _ | _, string _ => True
  | _, number n                       => n.Fits
  | 0, array _ | 0, object _          => False
  | room + 1, array items             => ∀ v ∈ items, v.Readable room
  | room + 1, object members          => SortedKeys members ∧ ∀ m ∈ members, m.2.Readable room

variable {n : Number}

theorem mem_numbers_array {items : List Value} :
    n ∈ (array items).numbers ↔ ∃ v ∈ items, n ∈ v.numbers := by
  rw [numbers]
  induction items
  case nil           => simp [numbersOfItems]
  case cons v vs hi => simp [numbersOfItems, hi]

theorem mem_numbers_object {members : List (String × Value)} :
    n ∈ (object members).numbers ↔ ∃ m ∈ members, n ∈ m.2.numbers := by
  rw [numbers]
  induction members
  case nil           => simp [numbersOfMembers]
  case cons m ms hi => simp [numbersOfMembers, hi]

end Value
end Values

section Sorting

variable {α : Type} {members : List (String × α)}

theorem insertMember_of_forall_lt {key : String} {value : α} (h : ∀ m ∈ members, m.1 < key) :
    insertMember key value members = members ++ [(key, value)] := by
  induction members
  case nil => rfl
  case cons m rest hi =>
    obtain ⟨hm, hr⟩ := List.forall_mem_cons.1 h
    rw [insertMember, if_neg (String.lt_asymm hm), if_neg (String.ne_of_lt hm).symm, hi hr]
    rfl

theorem SortedKeys.sortMembers_eq (h : SortedKeys members) : sortMembers members = members := by
  induction members using List.reverseRecOn
  case nil => rfl
  case append_singleton members m hi =>
    simp only [SortedKeys, List.map_append, List.pairwise_append, List.map_cons, List.map_nil] at h
    obtain ⟨hs, -, hm⟩ := h
    have hlt : ∀ m' ∈ members, m'.1 < m.1 := fun m' hm' =>
      hm m'.1 (List.mem_map_of_mem hm') m.1 List.mem_cons_self
    rw [sortMembers, List.foldl_append, ← sortMembers, hi hs]
    exact insertMember_of_forall_lt hlt

end Sorting

end ChainHost.Json
