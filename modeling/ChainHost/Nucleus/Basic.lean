import ChainHost.Interface
import ChainHost.Payload

namespace ChainHost

-- What every nucleus can do for its host. To validate only looks at its state.
class Nucleus (ν : Type) where
  -- The name of the type of nuclei that this one belongs to.
  typeName : ν → String
  -- The functions that can be called, in the order of their exposure.
  interfaces : ν → List Interface
  -- Checks a value against the rules for an entry type.
  validate : ν → EntryType → Payload → Except Failure Unit
  -- Calls a function.
  call : ν → String → Payload → Except Failure Payload × ν

namespace Nucleus

variable {ν : Type} [Nucleus ν]

-- The schema of a function. The first interface of a name counts.
def schemaOf (n : ν) (name : String) : Except Failure Schema :=
  match schemaOf? (interfaces n) name with
  | some s => .ok s
  | none => .error (.notExposed name)

-- Calls a function with a payload from the wire, and answers with one for the wire. The payload
-- is not looked at before the function is known.
def callEncoded (n : ν) (name raw : String) : Except Failure String × ν :=
  match schemaOf n name with
  | .error e => (.error e, n)
  | .ok schema =>
    match Payload.decode schema raw with
    | .error e => (.error e, n)
    | .ok payload =>
      let (result, n) := call n name payload
      (result.map Payload.encode, n)

-- What a host does with a nucleus.
inductive Use where
  | schemaOf (name : String)
  | call (name : String) (p : Payload)
  | callEncoded (name raw : String)
  | validate (entry : EntryType) (p : Payload)

-- What a nucleus answers to that.
inductive Reply where
  | schema (result : Except Failure Schema)
  | payload (result : Except Failure Payload)
  | encoded (result : Except Failure String)
  | verdict (result : Except Failure Unit)

-- The reply to a use, and the nucleus after it.
def use (n : ν) : Use → Reply × ν
  | .schemaOf name => (.schema (schemaOf n name), n)
  | .call name p =>
    let (result, n) := call n name p
    (.payload result, n)
  | .callEncoded name raw =>
    let (result, n) := callEncoded n name raw
    (.encoded result, n)
  | .validate entry p => (.verdict (validate n entry p), n)

theorem callEncoded_of_notExposed {n : ν} {name : String} {e : Failure}
    (h : schemaOf n name = .error e) (raw : String) : callEncoded n name raw = (.error e, n) := by
  simp [callEncoded, h]

end Nucleus
end ChainHost
