import ChainHost.Event

namespace ChainHost.Logging

-- What a panic carries.
inductive PanicPayload where
  | text (value : String)
  | other
  deriving DecidableEq, Repr

-- A panic: the file and the line that it comes from, if they are known, and its payload.
structure Panic where
  location : Option (String × Nat)
  payload : PanicPayload

-- The greatest number of characters of a payload that are recorded.
def maxPayload : Nat := 160

-- A line end as a blank.
def unbroken (c : Char) : Char :=
  if c = '\n' ∨ c = '\r' then ' ' else c

-- The first characters of a text on one line; dots show that there are more.
def singleLine (text : List Char) (max : Nat) : List Char :=
  (text.take max).map unbroken ++ (if text.length > max then ['.', '.', '.'] else [])

def PanicPayload.description : PanicPayload → String
  | text value => value
  | other => "non-string panic payload"

def Panic.place (p : Panic) : String :=
  match p.location with
  | some (file, line) => file ++ ":" ++ toString line
  | none => "unknown"

-- The event of a panic.
def Panic.event (p : Panic) : Event :=
  .panicCaptured p.place (String.ofList (singleLine p.payload.description.toList maxPayload))

theorem unbroken_ne_newline (c : Char) : unbroken c ≠ '\n' ∧ unbroken c ≠ '\r' := by
  unfold unbroken
  split
  · decide
  · next h => exact ⟨fun e => h (.inl e), fun e => h (.inr e)⟩

@[simp]
theorem unbroken_unbroken (c : Char) : unbroken (unbroken c) = unbroken c := by
  have ⟨h₁, h₂⟩ := unbroken_ne_newline c
  exact if_neg (not_or.2 ⟨h₁, h₂⟩)

theorem length_singleLine_le (text : List Char) (max : Nat) :
    (singleLine text max).length ≤ max + 3 := by
  have h : (if text.length > max then ['.', '.', '.'] else []).length ≤ 3 := by
    split <;> decide
  rw [singleLine, List.length_append, List.length_map, List.length_take]
  omega

end ChainHost.Logging
