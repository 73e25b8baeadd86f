import ChainHost.Declared
import ChainHost.Event

namespace ChainHost

-- Builds a nucleus for a host from source code, and tells which events there were. Whatever else it
-- does is done in the monad `m`.
abbrev Factory (m : Type → Type) (η ν : Type) := η → String → m (Except Failure ν × List Event)

-- The factory of declared nuclei, among nuclei of the type `ν`.
def Factory.ofDeclared {m : Type → Type} [Monad m] {η ν π : Type} [PatternLanguage π]
    (embed : Declared π → ν) : Factory m η ν := fun host code =>
  let (result, events) := Declared.build host code
  return (result.map embed, events)

-- Why a factory cannot be registered.
inductive RegistrationError where
  | missingFactory (name : String)
  | duplicateType (name : String)
  deriving DecidableEq, Repr

def RegistrationError.message : RegistrationError → String
  | missingFactory name => "nucleus factory for type `" ++ name ++ "` does not exist"
  | duplicateType name => "nucleus factory for type `" ++ name ++ "` already registered"

-- Factories of nuclei of the type `ν` for hosts of the type `η`.
structure Registry (m : Type → Type) (η ν : Type) where
  factories : List (String × Factory m η ν)
  sorted : Json.SortedKeys factories

-- What is to be registered: a factory, a slot that may be empty, or the types that come with the
-- host.
inductive Registration (m : Type → Type) (η ν : Type) where
  | factory (name : String) (f : Factory m η ν)
  | slot (name : String) (slot : Option (Factory m η ν))
  | builtin

-- What is asked of a registry.
inductive Request (m : Type → Type) (η ν : Type) where
  | registration (g : Registration m η ν)
  | creation (host : η) (type code : String)

-- What a registry answers, with the events that there were.
inductive Answer (ν : Type) where
  | registration (result : Except RegistrationError Event)
  | creation (result : Except Failure ν × List Event)

namespace Registry

variable {m : Type → Type} {η ν π : Type}

def empty : Registry m η ν where
  factories := []
  sorted := by simp [Json.SortedKeys]

instance : Inhabited (Registry m η ν) := ⟨empty⟩

-- The registered names in their order.
def typeNames (r : Registry m η ν) : List String :=
  r.factories.map Prod.fst

def size (r : Registry m η ν) : Nat :=
  r.factories.length

def isEmpty (r : Registry m η ν) : Bool :=
  r.factories.isEmpty

def factory? (r : Registry m η ν) (name : String) : Option (Factory m η ν) :=
  Json.findMember? name r.factories

def contains (r : Registry m η ν) (name : String) : Bool :=
  (r.factory? name).isSome

-- The names as a message shows them.
def describe (r : Registry m η ν) : String :=
  "NucleusRegistry \x7b types: [" ++ String.intercalate ", " (r.typeNames.map Text.quoted) ++
    "] \x7d"

-- Registers what may be a factory, and tells of it.
def registerSlot (r : Registry m η ν) (name : String) (slot : Option (Factory m η ν)) :
    Except RegistrationError (Registry m η ν × Event) :=
  match slot with
  | none => .error (.missingFactory name)
  | some f =>
    if r.contains name then .error (.duplicateType name)
    else .ok (⟨Json.insertMember name f r.factories, r.sorted.insertMember⟩, .registered name)

-- Registers a factory, and tells of it.
def register (r : Registry m η ν) (name : String) (f : Factory m η ν) :
    Except RegistrationError (Registry m η ν × Event) :=
  r.registerSlot name (some f)

section Builtin

variable [Monad m] [PatternLanguage π] (embed : Declared π → ν)

-- Registers the types that come with the host: declared nuclei.
def registerBuiltin (r : Registry m η ν) : Except RegistrationError (Registry m η ν × Event) :=
  r.register Declared.typeName (.ofDeclared embed)

def attempt (r : Registry m η ν) :
    Registration m η ν → Except RegistrationError (Registry m η ν × Event)
  | .factory name f => r.register name f
  | .slot name slot => r.registerSlot name slot
  | .builtin => r.registerBuiltin embed

-- The answer to a registration, and the registry after it. What is refused changes nothing.
def perform (r : Registry m η ν) (g : Registration m η ν) :
    Except RegistrationError Event × Registry m η ν :=
  match r.attempt embed g with
  | .ok (r', event) => (.ok event, r')
  | .error e => (.error e, r)

-- The registry after a run of registrations.
def after (r : Registry m η ν) (gs : List (Registration m η ν)) : Registry m η ν :=
  gs.foldl (fun r g => (r.perform embed g).2) r

end Builtin

section Creation

variable [Monad m]

-- Builds a nucleus of a type.
def create (r : Registry m η ν) (host : η) (type code : String) :
    m (Except Failure ν × List Event) :=
  match r.factory? type with
  | none => return (.error (.unknownType type r.typeNames), [])
  | some f => do
    let (result, events) ← f host code
    return (result, .creating type code.utf8ByteSize :: events)

variable [PatternLanguage π] (embed : Declared π → ν)

-- Answers a request, with the registry after it.
def serve (r : Registry m η ν) : Request m η ν → m (Answer ν × Registry m η ν)
  | .registration g =>
    let (result, r) := r.perform embed g
    return (.registration result, r)
  | .creation host type code => return (.creation (← r.create host type code), r)

-- Answers requests one after another.
def serveAll (r : Registry m η ν) :
    List (Request m η ν) → m (List (Answer ν) × Registry m η ν)
  | [] => return ([], r)
  | q :: rest => do
    let (answer, r) ← r.serve embed q
    let (answers, r) ← r.serveAll rest
    return (answer :: answers, r)

end Creation
end Registry
end ChainHost
