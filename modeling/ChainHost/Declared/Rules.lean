import ChainHost.Declared.Source
import ChainHost.Pattern
import ChainHost.Payload

namespace ChainHost.Declared

-- The rules for an entry type over the patterns of a language.
structure Rules (π : Type) where
  required : List String
  fields : List (String × π)
  pattern : Option π
  maxLength : Option Nat

namespace Rules

variable {π : Type}

def hasTextRules (r : Rules π) : Bool :=
  r.pattern.isSome || r.maxLength.isSome

def hasObjectRules (r : Rules π) : Bool :=
  !r.required.isEmpty || !r.fields.isEmpty

variable [PatternLanguage π]

-- The failure of a value that violates a rule.
def violated {α : Type} (entry rule : String) : Except Failure α :=
  .error (.invalidEntry entry rule)

-- Checks a text: its shape, its length, and its pattern.
def checkText (r : Rules π) (entry text : String) : Except Failure Unit := do
  if r.hasObjectRules then violated entry "object"
  if r.maxLength.any (· < text.length) then violated entry "max_length"
  if r.pattern.any fun p => !PatternLanguage.isMatch p text then violated entry "pattern"

-- Checks that a field is there and not null.
def checkRequired (entry : String) (members : List (String × Json.Value)) (field : String) :
    Except Failure Unit :=
  match Json.findMember? field members with
  | some .null | none => violated entry ("required:" ++ field)
  | some _ => .ok ()

-- Checks that a field, if it is there, is a text that matches its pattern.
def checkField (entry : String) (members : List (String × Json.Value)) (field : String × π) :
    Except Failure Unit :=
  match Json.findMember? field.1 members with
  | none => .ok ()
  | some (.string text) =>
    if PatternLanguage.isMatch field.2 text then .ok ()
    else violated entry ("pattern:" ++ field.1)
  | some _ => violated entry ("pattern:" ++ field.1)

-- Checks a JSON value: its shape, the fields that have to be there, and their patterns.
def checkValue (r : Rules π) (entry : String) (value : Json.Value) : Except Failure Unit := do
  if r.hasTextRules then violated entry "string"
  if r.hasObjectRules then
    match value with
    | .object members =>
      r.required.forM (checkRequired entry members)
      r.fields.forM (checkField entry members)
    | _ => violated entry "object"

def check (r : Rules π) (entry : String) : Payload → Except Failure Unit
  | .text text => r.checkText entry text
  | .json value => r.checkValue entry value

-- Compiles a pattern of an entry type.
def compilePattern (entry text : String) : Except Failure π :=
  match PatternLanguage.compile text with
  | .ok p => .ok p
  | .error message => .error (.load (.pattern entry message))

-- Compiles rules: the patterns of the fields in their order, then the pattern for texts. Rules
-- for both shapes are refused after that.
def ofDecl (entry : String) (d : RulesDecl) : Except Failure (Rules π) := do
  let fields ← d.fields.mapM fun (field, text) => do
    return (field, ← compilePattern entry text)
  let pattern ← match d.pattern with
    | some text => (compilePattern entry text).map some
    | none => pure none
  if d.hasTextRules && d.hasObjectRules then throw (.load (.mixed entry))
  return { required := d.required, fields, pattern, maxLength := d.maxLength }

end Rules
end ChainHost.Declared
