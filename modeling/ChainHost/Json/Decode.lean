import ChainHost.Json.Reader
import ChainHost.Schema

namespace ChainHost.Json

-- The number of containers that may stand open inside one another.
def maxOpen : Nat := 127

-- Reads a node that may open the given number of containers inside one another.
abbrev Decoder (α : Type) := Nat → Node → Except Fault α

-- What stands where something else was expected.
def Value.found : Value → Found
  | null => .null
  | bool b => .bool b
  | number (.integer i) => .integer i
  | number (.double x) => .double x
  | string s => .string s
  | array _ => .sequence
  | object _ => .map

namespace Node

-- The fault of a node of another type than expected. A scalar is consumed, a container not.
def mismatch (expected : Expected) : Node → Fault
  | broken _ _ strict _ => strict
  | null span => ⟨.invalidType .null expected, span.stop⟩
  | bool span b => ⟨.invalidType (.bool b) expected, span.stop⟩
  | number span (.ok n) => ⟨.invalidType (Value.number n).found expected, span.stop⟩
  | number _ (.error f) => f
  | string span (.ok s) => ⟨.invalidType (.string s) expected, span.stop⟩
  | string _ (.error f) => f
  | array start _ => ⟨.invalidType .sequence expected, start⟩
  | object start _ => ⟨.invalidType .map expected, start⟩

-- The text of a string.
def text (expected : Expected) : Node → Except Fault String
  | string _ value => value
  | node => .error (node.mismatch expected)

-- The fault of a container that is one too many.
def tooDeep (start : Nat) : Fault :=
  ⟨.tooDeep, start + 1⟩

-- The text of a node that stands for a key.
def key : Node → Except Fault String
  | string _ value => value
  | broken start lead strict _ =>
    .error (match lead with
      | some '"' => strict
      | some '}' => ⟨.trailingComma, start + 1⟩
      | some _ => ⟨.keyNotString, start + 1⟩
      | none => ⟨.endOfValue, start⟩)
  | node => .error ⟨.keyNotString, node.start + 1⟩

-- The fault of an item of which only the comma before it is there.
def trailingComma? : Node → Option Fault
  | broken start (some ']') _ _ => some ⟨.trailingComma, start + 1⟩
  | _ => none

-- Reads an item of an array.
def asItem {α : Type} (decode : Node → Except Fault α) (node : Node) : Except Fault α :=
  match node.trailingComma? with
  | some f => .error f
  | none => decode node

end Node

-- The fault at the end of a list that `next` stands at, if that is not its bracket.
def listEnd (offset : Nat) (next : Option Char) : Except Fault Unit :=
  match next with
  | some ']' => .ok ()
  | some _ => .error ⟨.expectedListEnd, offset + 1⟩
  | none => .error ⟨.endOfList, offset⟩

-- The fault at the end of an object that `next` stands at, if that is not its brace.
def objectEnd (offset : Nat) (next : Option Char) : Except Fault Unit :=
  match next with
  | some '}' => .ok ()
  | some _ => .error ⟨.expectedObjectEnd, offset + 1⟩
  | none => .error ⟨.endOfObject, offset⟩

-- The fault of a key that no colon follows.
def colonFault (offset : Nat) (next : Option Char) : Fault :=
  match next with
  | some _ => ⟨.expectedColon, offset + 1⟩
  | none => ⟨.endOfObject, offset⟩

mutual

-- Skims over a value of which nothing is wanted. There may be any number of containers.
def Node.skim : Node → Except Fault Unit
  | .broken _ _ _ skim => .error skim
  | .array _ items => items.skim
  | .object _ members => members.skim
  | .null _ | .bool .. | .number .. | .string .. => .ok ()

def Items.skim : Items → Except Fault Unit
  | .ended offset next => listEnd offset next
  | .item node rest => do
    node.skim
    rest.skim

def Members.skim : Members → Except Fault Unit
  | .ended offset next => objectEnd offset next
  | .bare (.broken _ (some '"') _ skim) _ _ => .error skim
  | .bare (.string ..) offset next => .error (colonFault offset next)
  | .bare (.broken start none _ _) _ _ => .error ⟨.endOfObject, start⟩
  | .bare key _ _ => .error ⟨.keyNotString, key.start + 1⟩
  | .member _ _ value _ rest => do
    value.skim
    rest.skim

end

mutual

-- Reads any value.
def Node.value : Nat → Node → Except Fault Value
  | _, .broken _ _ strict _ => .error strict
  | _, .null _ => .ok .null
  | _, .bool _ b => .ok (.bool b)
  | _, .number _ n => n.map .number
  | _, .string _ s => s.map .string
  | 0, .array start _ => .error (Node.tooDeep start)
  | room + 1, .array _ items => (items.values room).map .array
  | 0, .object start _ => .error (Node.tooDeep start)
  | room + 1, .object _ members =>
    (members.values room).map fun ms => .object (sortMembers ms)

def Items.values : Nat → Items → Except Fault (List Value)
  | _, .ended offset next => (listEnd offset next).map fun _ => []
  | room, .item node rest => do
    if let some f := node.trailingComma? then throw f
    let value ← node.value room
    return value :: (← rest.values room)

def Members.values : Nat → Members → Except Fault (List (String × Value))
  | _, .ended offset next => (objectEnd offset next).map fun _ => []
  | _, .bare key offset next => do
    let _ ← key.key
    throw (colonFault offset next)
  | room, .member key _ value _ rest => do
    let key ← key.key
    let value ← value.value room
    return (key, value) :: (← rest.values room)

end

section Containers

variable {α : Type}

-- Reads each item of an array.
def Items.list (decode : Node → Except Fault α) : Items → Except Fault (List α)
  | .ended offset next => (listEnd offset next).map fun _ => []
  | .item node rest => do
    let value ← node.asItem decode
    return value :: (← rest.list decode)

-- Reads each member of an object, in the order of the text.
def Members.pairs (decode : Node → Except Fault α) : Members → Except Fault (List (String × α))
  | .ended offset next => (objectEnd offset next).map fun _ => []
  | .bare key offset next => do
    let _ ← key.key
    throw (colonFault offset next)
  | .member key _ value _ rest => do
    let key ← key.key
    let value ← decode value
    return (key, value) :: (← rest.pairs decode)

-- Reads an array.
def listOf (decode : Decoder α) : Decoder (List α)
  | 0, .array start _ => .error (Node.tooDeep start)
  | room + 1, .array _ items => items.list (decode room)
  | _, node => .error (node.mismatch .sequence)

-- Reads an object as members in the order of their keys, of which the last counts.
def mapOf (decode : Decoder α) : Decoder (List (String × α))
  | 0, .object start _ => .error (Node.tooDeep start)
  | room + 1, .object _ members => (members.pairs (decode room)).map sortMembers
  | _, node => .error (node.mismatch .map)

-- Reads `null` as nothing.
def optional (decode : Decoder α) : Decoder (Option α)
  | _, .null _ => .ok none
  | room, node => (decode room node).map some

end Containers

def anyValue : Decoder Value :=
  Node.value

def string : Decoder String :=
  fun _ node => node.text .string

def path : Decoder String :=
  fun _ node => node.text .path

-- Reads an integer that is not negative.
def size : Decoder Nat
  | _, .number span (.ok (.integer i)) =>
    if i < 0 then .error ⟨.negativeSize i, span.stop⟩ else .ok i.toNat
  | _, node => .error (node.mismatch .size)

-- The schema of a name that ends at `stop`.
def schemaNamed (name : String) (stop : Nat) : Except Fault Schema :=
  match Schema.ofName? name with
  | some s => .ok s
  | none => .error ⟨.unknownVariant name [Schema.string.name, Schema.json.name], stop⟩

-- Reads the name of a schema and nothing else.
def Node.schemaName : Node → Except Fault Schema
  | .string span (.ok name) => schemaNamed name span.stop
  | node => .error (node.mismatch .variant)

-- Reads the name of a schema that stands for a key.
def Node.schemaKey : Node → Except Fault Schema
  | .string span (.ok name) => schemaNamed name span.stop
  | .string _ (.error f) => .error f
  | .broken _ (some '"') strict _ => .error strict
  | .broken start none _ _ => .error ⟨.endOfObject, start⟩
  | node => .error ⟨.keyNotString, node.start + 1⟩

-- Reads a schema from an object whose one key names it and has no value.
def Members.schema : Members → Except Fault Schema
  | .ended offset next =>
    .error ⟨if next.isSome then .expectedValue else .endOfObject, peek offset next⟩
  | .bare key offset next => do
    let _ ← key.schemaKey
    throw (colonFault offset next)
  | .member key _ value after rest => do
    let s ← key.schemaKey
    match value with
    | .null _ => pure ()
    | node => throw (node.mismatch .unit)
    match rest with
    | .ended _ (some '}') => return s
    | .ended offset none => throw ⟨.endOfObject, offset⟩
    | _ => throw ⟨.expectedValue, after⟩

-- Reads a schema: its name, or an object whose one key is the name.
def schema : Decoder Schema
  | _, .string span (.ok name) => schemaNamed name span.stop
  | _, .string _ (.error f) => .error f
  | 0, .object start _ => .error (Node.tooDeep start)
  | _ + 1, .object _ members => members.schema
  | _, .broken _ (some '"') strict _ => .error strict
  | _, .broken start none _ _ => .error ⟨.endOfValue, start⟩
  | _, node => .error ⟨.expectedValue, node.start + 1⟩

-- Reads a document, after whose value only blanks may stand.
def Document.decode {α : Type} (decode : Decoder α) (d : Document) : Except Fault α := do
  let value ← decode maxOpen d.root
  if d.next.isSome then throw ⟨.trailingCharacters, d.offset + 1⟩
  return value

-- Reads a text.
def decodeText {α : Type} (decode : Decoder α) (text : String) : Except Fault α :=
  (Document.ofText text).decode decode

-- The value that a text denotes.
def Value.ofText (text : String) : Except Fault Value :=
  decodeText anyValue text

end ChainHost.Json
