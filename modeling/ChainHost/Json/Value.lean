import ChainHost.Json.Number

namespace ChainHost.Json

-- What is read from a text has the members of an object in the order of their keys, each key once.
inductive Value where
  | null
  | bool (value : Bool)
  | number (value : Number)
  | string (value : String)
  | array (items : List Value)
  | object (members : List (String × Value))
  deriving Inhabited, Repr

-- Puts a member in its place by key, over an earlier one of the same key.
def insertMember {α : Type} (key : String) (value : α) : List (String × α) → List (String × α)
  | [] => [(key, value)]
  | (k, v) :: rest =>
    if key < k then (key, value) :: (k, v) :: rest
    else if key = k then (key, value) :: rest
    else (k, v) :: insertMember key value rest

-- The value of a key.
def findMember? {α : Type} (key : String) : List (String × α) → Option α
  | [] => none
  | (k, v) :: rest => if k = key then some v else findMember? key rest

-- Members in the order of their keys, each key once; the last of equal keys wins.
def sortMembers {α : Type} (members : List (String × α)) : List (String × α) :=
  members.foldl (fun sorted m => insertMember m.1 m.2 sorted) []

-- The keys ascend, so that none stands twice.
def SortedKeys {α : Type} (members : List (String × α)) : Prop :=
  (members.map Prod.fst).Pairwise (· < ·)

namespace Value

def isNull : Value → Bool
  | null => true
  | _ => false

def string? : Value → Option String
  | string s => some s
  | _ => none

def members? : Value → Option (List (String × Value))
  | object ms => some ms
  | _ => none

end Value

variable {α : Type}

@[simp]
theorem findMember?_nil (key : String) : findMember? (α := α) key [] = none :=
  rfl

theorem findMember?_insertMember (key k : String) (v : α) (members : List (String × α)) :
    findMember? key (insertMember k v members) =
      if k = key then some v else findMember? key members := by
  induction members with
  | nil => simp [insertMember, findMember?]
  | cons m rest ih =>
    obtain ⟨k', v'⟩ := m
    unfold insertMember
    split
    · simp [findMember?]
    · split
      · next h => subst h; simp only [findMember?]; split <;> rfl
      · next h =>
        simp only [findMember?, ih]
        split
        · next h' => subst h'; simp [h]
        · rfl

theorem mem_keys_insertMember {key k : String} {v : α} {members : List (String × α)} :
    key ∈ (insertMember k v members).map Prod.fst ↔
      key = k ∨ key ∈ members.map Prod.fst := by
  induction members with
  | nil => simp [insertMember]
  | cons m rest ih =>
    obtain ⟨k', v'⟩ := m
    unfold insertMember
    split
    · simp
    · split
      · next h => subst h; simp
      · simp only [List.map_cons, List.mem_cons, ih]; grind

theorem SortedKeys.insertMember {k : String} {v : α} {members : List (String × α)}
    (h : SortedKeys members) : SortedKeys (insertMember k v members) := by
  induction members with
  | nil => simp [Json.insertMember, SortedKeys]
  | cons m rest ih =>
    obtain ⟨k', v'⟩ := m
    have hrest : SortedKeys rest := (List.pairwise_cons.1 h).2
    have hk' : ∀ key ∈ rest.map Prod.fst, k' < key := (List.pairwise_cons.1 h).1
    unfold Json.insertMember
    split
    · next hlt =>
      refine List.pairwise_cons.2 ⟨fun key hkey => ?_, h⟩
      rcases List.mem_cons.1 hkey with rfl | hkey
      · exact hlt
      · exact String.lt_trans hlt (hk' key hkey)
    · split
      · next heq => subst heq; exact h
      · next hlt hne =>
        refine List.pairwise_cons.2 ⟨fun key hkey => ?_, ih hrest⟩
        rcases mem_keys_insertMember.1 hkey with rfl | hkey
        · exact String.not_le.1 fun hle => hne (String.le_antisymm hle (String.not_lt.1 hlt))
        · exact hk' key hkey

end ChainHost.Json
