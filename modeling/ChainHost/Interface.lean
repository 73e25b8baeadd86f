import ChainHost.Json.Printer
import ChainHost.Json.Record

namespace ChainHost

-- A function that can be called, and the schema of what it takes and gives.
structure Interface where
  name : String
  schema : Schema
  deriving DecidableEq, Repr, Inhabited

-- The schema of a name among interfaces. The first one of a name counts.
def schemaOf? (interfaces : List Interface) (name : String) : Option Schema :=
  (interfaces.find? fun i => i.name == name).map Interface.schema

theorem schemaOf?_eq_none_iff {interfaces : List Interface} {name : String} :
    schemaOf? interfaces name = none ↔ name ∉ interfaces.map Interface.name := by
  rw [schemaOf?, Option.map_eq_none_iff, List.find?_eq_none]
  simp

-- An entry type of the host, and the schema of its values.
structure EntryType where
  name : String
  format : Schema
  deriving DecidableEq, Repr, Inhabited

-- A name and a schema, while they are being read.
structure NamedSchemaDraft where
  name : Option String := none
  schema : Option Schema := none

namespace NamedSchemaDraft

def fields (schemaName : String) : List (Json.Field NamedSchemaDraft) :=
  [⟨"name", fun room node draft => do
      return { draft with name := some (← Json.string room node) }⟩,
    ⟨schemaName, fun room node draft => do
      return { draft with schema := some (← Json.schema room node) }⟩]

end NamedSchemaDraft

namespace Interface

def layout : Json.Layout NamedSchemaDraft Interface where
  title := "Interface"
  fields := NamedSchemaDraft.fields "schema"
  strict := false
  empty := { }
  finish draft := do
    return ⟨← Json.required "name" draft.name, ← Json.required "schema" draft.schema⟩

-- Reads the text of an interface.
def ofText (text : String) : Except Json.Fault Interface :=
  Json.decodeText layout.decode text

-- The text of an interface, with its fields in their order.
def text (i : Interface) : String :=
  (Json.Value.object [("name", .string i.name), ("schema", .string i.schema.name)]).text

end Interface

namespace EntryType

def layout : Json.Layout NamedSchemaDraft EntryType where
  title := "EntryDef"
  fields := NamedSchemaDraft.fields "format"
  strict := false
  empty := { }
  finish draft := do
    return ⟨← Json.required "name" draft.name, ← Json.required "format" draft.schema⟩

-- Reads the text of an entry type.
def ofText (text : String) : Except Json.Fault EntryType :=
  Json.decodeText layout.decode text

-- The text of an entry type, with its fields in their order.
def text (e : EntryType) : String :=
  (Json.Value.object [("name", .string e.name), ("format", .string e.format.name)]).text

end EntryType
end ChainHost
