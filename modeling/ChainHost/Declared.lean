import ChainHost.Catalog
import ChainHost.Declared.Rules
import ChainHost.Event
import ChainHost.Nucleus.Basic

namespace ChainHost

-- What a declared function does.
inductive Declared.Behavior where
  | constant (value : Payload)
  | echo
  | fail (message : String)
  deriving Inhabited

structure Declared.Function where
  schema : Schema
  behavior : Behavior
  deriving Inhabited

-- A nucleus that is declared by data, over the patterns of a language.
structure Declared (π : Type) where
  catalog : Catalog
  functions : List (String × Declared.Function)
  rules : List (String × Declared.Rules π)

namespace Declared

variable {π : Type}

-- The name of the type of declared nuclei.
def typeName : String := "static"

-- Checks that a payload has the schema that a function or an entry type asks for.
def ensureSchema (target : String) (expected : Schema) (p : Payload) : Except Failure Unit :=
  if p.schema = expected then .ok ()
  else .error (.schemaMismatch target expected p.schema)

-- What a function does. A function of bare text can only return a text.
def Behavior.ofDecl (d : FunctionDecl) : Except Failure Behavior :=
  match d.error, d.returns, d.schema with
  | some message, _, _ => .ok (.fail message)
  | none, none, _ => .ok .echo
  | none, some (.string text), .string => .ok (.constant (.text text))
  | none, some _, .string => .error (.load (.constant d.name))
  | none, some value, .json => .ok (.constant (.json value))

-- Adds a function to those that are known.
def addFunction (known : Catalog × List (String × Function)) (d : FunctionDecl) :
    Except Failure (Catalog × List (String × Function)) := do
  let behavior ← Behavior.ofDecl d
  let catalog ← known.1.expose ⟨d.name, d.schema⟩
  return (catalog, Json.insertMember d.name ⟨d.schema, behavior⟩ known.2)

-- Makes a nucleus of a document. Its functions are made first, in their order.
def ofSource [PatternLanguage π] (source : Source) : Except Failure (Declared π) := do
  let (catalog, functions) ← source.functions.foldlM addFunction (Catalog.empty, [])
  let rules ← source.entries.mapM fun (entry, decl) => do
    return (entry, ← Rules.ofDecl entry decl)
  return { catalog := catalog.close, functions, rules }

-- Makes a nucleus of source code.
def load [PatternLanguage π] (code : String) : Except Failure (Declared π) :=
  match Source.ofText code with
  | .ok source => ofSource source
  | .error fault => .error (.load (.malformed (fault.message code)))

-- The event of having been loaded.
def loadedEvent (n : Declared π) : Event :=
  .loaded n.catalog.interfaces.length n.rules.length

def stage (n : Declared π) : Stage :=
  n.catalog.stage

-- Tries to expose a further function.
def expose (n : Declared π) (i : Interface) : Except Failure (Declared π) :=
  (n.catalog.expose i).map fun catalog => { n with catalog }

def call (n : Declared π) (name : String) (p : Payload) : Except Failure Payload :=
  match Json.findMember? name n.functions with
  | none => .error (.notExposed name)
  | some f => do
    ensureSchema name f.schema p
    match f.behavior with
    | .constant value => return value
    | .echo => return p
    | .fail message => throw (.failed message)

-- Checks a value against the rules for its entry type. Where there are none it is valid.
def validate [PatternLanguage π] (n : Declared π) (entry : EntryType) (p : Payload) :
    Except Failure Unit := do
  ensureSchema entry.name entry.format p
  match Json.findMember? entry.name n.rules with
  | some rules => rules.check entry.name p
  | none => return ()

instance [PatternLanguage π] : Nucleus (Declared π) where
  typeName _ := typeName
  interfaces n := n.catalog.interfaces
  validate := validate
  call n name p := (n.call name p, n)

-- What is asked of a nucleus by the code that has loaded it: any use, or to expose one more function.
inductive Step where
  | use (u : Nucleus.Use)
  | expose (i : Interface)

inductive StepReply where
  | use (reply : Nucleus.Reply)
  | expose (result : Except Failure Unit)

-- The reply to a step, and the nucleus after it. What is refused changes nothing.
def perform [PatternLanguage π] (n : Declared π) : Step → StepReply × Declared π
  | .use u =>
    let (reply, n) := Nucleus.use n u
    (.use reply, n)
  | .expose i =>
    match n.expose i with
    | .ok n => (.expose (.ok ()), n)
    | .error e => (.expose (.error e), n)

-- The replies to steps one after another, each with the nucleus after it.
def performAll [PatternLanguage π] (n : Declared π) : List Step → List (StepReply × Declared π)
  | [] => []
  | step :: steps => n.perform step :: (n.perform step).2.performAll steps

-- Builds a nucleus for any host.
def build {η : Type} [PatternLanguage π] (_host : η) (code : String) :
    Except Failure (Declared π) × List Event :=
  match load code with
  | .ok n => (.ok n, [n.loadedEvent])
  | .error e => (.error e, [])

end Declared
end ChainHost
