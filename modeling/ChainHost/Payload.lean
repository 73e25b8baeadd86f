import ChainHost.Failure
import ChainHost.Json.Printer
import ChainHost.Json.Record

namespace ChainHost

inductive Payload where
  | text (value : String)
  | json (value : Json.Value)
  deriving Repr, Inhabited

namespace Payload

def schema : Payload → Schema
  | text _ => .string
  | json _ => .json

-- Reads a payload from the wire.
def decode (schema : Schema) (raw : String) : Except Failure Payload :=
  match schema with
  | .string => .ok (text raw)
  | .json =>
    match Json.Value.ofText raw with
    | .ok value => .ok (json value)
    | .error fault => .error (.undecodable (fault.message raw))

-- Writes a payload to the wire.
def encode : Payload → String
  | text value => value
  | json value => value.text

-- The value of a payload, without its schema.
def toValue : Payload → Json.Value
  | text value => .string value
  | json value => value

-- The document of a payload with its schema.
def tagged (p : Payload) : String :=
  (Json.Value.object [("schema", .string p.schema.name), ("value", p.toValue)]).text

-- A value as a payload of a given schema. The fault shows at `offset`.
def ofValue (schema : Schema) (value : Json.Value) (offset : Nat) : Except Json.Fault Payload :=
  match schema, value with
  | .json, value => .ok (json value)
  | .string, .string s => .ok (text s)
  | .string, value => .error ⟨.invalidType value.found .string, offset⟩

-- Reads a node as a payload of a given schema.
def ofNode (schema : Schema) : Json.Decoder Payload :=
  fun room node =>
    match schema with
    | .json => (Json.anyValue room node).map json
    | .string => (Json.string room node).map text

-- What is known of a tagged payload while its members are being read. A value that stands
-- before its schema is kept as it is.
inductive Part where
  | none
  | schema (schema : Schema)
  | value (value : Json.Value)
  | whole (payload : Payload)

namespace Part

-- The key that may not stand again, if `name` is one.
def repeated? (part : Part) (name : String) : Option Json.Reason :=
  let known := match part with
    | none => []
    | schema _ => ["schema"]
    | value _ => ["value"]
    | whole _ => ["schema", "value"]
  if name ∈ known then some (.duplicateField name) else Option.none

-- The payload, or the key that is missing.
def finish : Part → Except Json.Reason Payload
  | none => .error (.missingField "schema")
  | schema _ => .error (.missingField "value")
  | value _ => .error (.missingField "schema")
  | whole payload => .ok payload

end Part

-- The offset up to which an object is read when a fault shows after one of its values.
def afterValue (after : Nat) (rest : Json.Members) : Nat :=
  match rest with
  | .ended offset (some '}') => offset + 1
  | _ => after

-- Reads a member that is the schema or the value.
def readPart (room : Nat) (name : String) (node : Json.Node) (stop : Nat) (part : Part) :
    Except Json.Fault Part :=
  if name = "schema" then do
    let s ← Json.schema room node
    match part with
    | .value v => return .whole (← ofValue s v stop)
    | _ => return .schema s
  else
    match part with
    | .schema s => do return .whole (← ofNode s room node)
    | _ => do return .value (← Json.anyValue room node)

-- Reads the members of a tagged payload.
def ofMembers (room : Nat) : Json.Members → Part → Except Json.Fault Payload
  | .ended offset next, part => do
    Json.objectEnd offset next
    match part.finish with
    | .ok payload => return payload
    | .error reason => throw ⟨reason, offset + 1⟩
  | .bare key offset next, part => do
    let name ← key.key
    if let some reason := part.repeated? name then
      throw ⟨reason, Json.Layout.afterBrace offset next⟩
    throw (Json.colonFault offset next)
  | .member key colon value after rest, part => do
    let name ← key.key
    if let some reason := part.repeated? name then throw ⟨reason, colon⟩
    if name = "schema" ∨ name = "value" then
      ofMembers room rest (← readPart room name value (afterValue after rest) part)
    else
      value.skim
      ofMembers room rest part

-- What a tagged payload is expected to be.
def expected : Json.Expected :=
  .tagged "CallValue"

-- Reads a tagged payload from an array of its schema and its value.
def ofItems (room : Nat) : Json.Items → Except Json.Fault Payload
  | .ended offset next => do
    Json.listEnd offset next
    throw ⟨.invalidLength 0 expected none, offset + 1⟩
  | .item node rest => do
    let s ← node.schemaName
    match rest with
    | .ended offset next =>
      Json.listEnd offset next
      throw ⟨.invalidLength 1 expected none, offset + 1⟩
    | .item node rest =>
      let payload ← node.asItem (ofNode s room)
      let _ ← Json.Layout.arrayEnd rest
      return payload

-- Reads a tagged payload.
def taggedDecoder : Json.Decoder Payload
  | 0, .array start _ => .error (Json.Node.tooDeep start)
  | 0, .object start _ => .error (Json.Node.tooDeep start)
  | room + 1, .array _ items => ofItems room items
  | room + 1, .object _ members => ofMembers room members .none
  | _, node => .error (node.mismatch expected)

-- Reads the document of a payload with its schema.
def ofText (text : String) : Except Json.Fault Payload :=
  Json.decodeText taggedDecoder text

@[simp]
theorem schema_text (s : String) : (text s).schema = .string :=
  rfl

@[simp]
theorem schema_json (v : Json.Value) : (json v).schema = .json :=
  rfl

theorem schema_of_decode {s : Schema} {raw : String} {p : Payload} (h : decode s raw = .ok p) :
    p.schema = s := by
  cases s with
  | string => cases h; rfl
  | json =>
    unfold decode at h
    dsimp only at h
    split at h
    · cases h; rfl
    · cases h

end Payload
end ChainHost
