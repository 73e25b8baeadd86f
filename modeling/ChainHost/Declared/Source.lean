import ChainHost.Json.Record

namespace ChainHost.Declared

-- A function: it fails with `error`, or gives back `returns`, or what it was given.
structure FunctionDecl where
  name : String
  schema : Schema
  returns : Option Json.Value
  error : Option String
  deriving Inhabited

-- The rules for an entry type. The last two are for texts, the others for objects.
structure RulesDecl where
  required : List String
  fields : List (String × String)
  pattern : Option String
  maxLength : Option Nat
  deriving Inhabited

structure Source where
  functions : List FunctionDecl
  -- The rules of each entry type, in the order of the types.
  entries : List (String × RulesDecl)
  deriving Inhabited

namespace FunctionDecl

-- A function while it is being read.
structure Draft where
  name : Option String := none
  schema : Option Schema := none
  returns : Option Json.Value := none
  error : Option String := none

def layout : Json.Layout Draft FunctionDecl where
  title := "FunctionDecl"
  fields := [
    ⟨"name", fun room node draft => do
      return { draft with name := some (← Json.string room node) }⟩,
    ⟨"schema", fun room node draft => do
      return { draft with schema := some (← Json.schema room node) }⟩,
    ⟨"returns", fun room node draft => do
      return { draft with returns := ← Json.optional Json.anyValue room node }⟩,
    ⟨"error", fun room node draft => do
      return { draft with error := ← Json.optional Json.string room node }⟩]
  strict := true
  empty := { }
  finish draft := do
    return {
      name := ← Json.required "name" draft.name
      schema := ← Json.required "schema" draft.schema
      returns := draft.returns
      error := draft.error }

end FunctionDecl

namespace RulesDecl

def empty : RulesDecl where
  required := []
  fields := []
  pattern := none
  maxLength := none

def layout : Json.Layout RulesDecl RulesDecl where
  title := "EntryRulesDecl"
  fields := [
    ⟨"required", fun room node rules => do
      return { rules with required := ← Json.listOf Json.string room node }⟩,
    ⟨"fields", fun room node rules => do
      return { rules with fields := ← Json.mapOf Json.string room node }⟩,
    ⟨"pattern", fun room node rules => do
      return { rules with pattern := ← Json.optional Json.string room node }⟩,
    ⟨"max_length", fun room node rules => do
      return { rules with maxLength := ← Json.optional Json.size room node }⟩]
  strict := true
  empty := empty
  finish := .ok

-- Whether there is a rule for texts.
def hasTextRules (r : RulesDecl) : Bool :=
  r.pattern.isSome || r.maxLength.isSome

-- Whether there is a rule for objects.
def hasObjectRules (r : RulesDecl) : Bool :=
  !r.required.isEmpty || !r.fields.isEmpty

end RulesDecl

namespace Source

def empty : Source where
  functions := []
  entries := []

def layout : Json.Layout Source Source where
  title := "StaticSource"
  fields := [
    ⟨"functions", fun room node source => do
      return { source with functions := ← Json.listOf FunctionDecl.layout.decode room node }⟩,
    ⟨"entries", fun room node source => do
      return { source with entries := ← Json.mapOf RulesDecl.layout.decode room node }⟩]
  strict := true
  empty := empty
  finish := .ok

-- Reads the document of a nucleus. A field that is `null` is left out, if nothing is a value for it.
def ofText (text : String) : Except Json.Fault Source :=
  Json.decodeText layout.decode text

end Source
end ChainHost.Declared
