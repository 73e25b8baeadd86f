import ChainHost.Json.Decode

namespace ChainHost.Json

-- A field of a record, and how it is put into a draft.
structure Field (σ : Type) where
  name : String
  read : Nat → Node → σ → Except Fault σ

-- How a record stands in a text: as an object, in any order of its fields, or as an array. `strict`
-- tells whether fields that are not its own are refused; else they are skimmed over.
structure Layout (σ α : Type) where
  title : String
  fields : List (Field σ)
  strict : Bool
  empty : σ
  finish : σ → Except String α

namespace Layout

variable {σ α : Type} (l : Layout σ α)

def names : List String :=
  l.fields.map Field.name

def field? (name : String) : Option (Field σ) :=
  l.fields.find? fun f => f.name == name

-- Why a key may not stand where the keys `seen` have stood before it.
def refusal? (seen : List String) (name : String) : Option Reason :=
  match l.field? name with
  | some _ => if name ∈ seen then some (.duplicateField name) else none
  | none => if l.strict then some (.unknownField name l.names) else none

-- The offset after a brace that closes an object.
def afterBrace (offset : Nat) (next : Option Char) : Nat :=
  if next = some '}' then offset + 1 else offset

-- Gathers the members of an object, given the keys before them; with the draft comes the offset
-- after the closing brace.
def gatherMembers (room : Nat) : Members → List String → σ → Except Fault (σ × Nat)
  | .ended offset next, _, draft => (objectEnd offset next).map fun _ => (draft, offset + 1)
  | .bare key offset next, seen, _ => do
    let name ← key.key
    if let some reason := l.refusal? seen name then throw ⟨reason, afterBrace offset next⟩
    throw (colonFault offset next)
  | .member key colon value _ rest, seen, draft => do
    let name ← key.key
    if let some reason := l.refusal? seen name then throw ⟨reason, colon⟩
    match l.field? name with
    | some f => gatherMembers room rest (name :: seen) (← f.read room value draft)
    | none =>
      value.skim
      gatherMembers room rest seen draft

-- What may follow the last field of an array.
def arrayEnd : Items → Except Fault Nat
  | .ended offset (some ']') => .ok (offset + 1)
  | .ended offset none => .error ⟨.endOfList, offset⟩
  | .ended offset (some _) => .error ⟨.trailingCharacters, offset + 1⟩
  | .item (.broken start none _ _) _ => .error ⟨.trailingCharacters, start⟩
  | .item node _ => node.asItem fun node => .error ⟨.trailingCharacters, node.start + 1⟩

-- Gathers the items of an array as fields in their order.
def gatherItems (room : Nat) : List (Field σ) → Items → σ → Except Fault (σ × Nat)
  | [], items, draft => (arrayEnd items).map fun stop => (draft, stop)
  | _ :: _, .ended offset next, draft =>
    (listEnd offset next).map fun _ => (draft, offset + 1)
  | f :: fs, .item node rest, draft => do
    let draft ← node.asItem fun node => f.read room node draft
    gatherItems room fs rest draft

-- Makes the record, or reports a missing field at the offset `stop`.
def close (missing : String → Reason) (gathered : σ × Nat) : Except Fault α :=
  match l.finish gathered.1 with
  | .ok record => .ok record
  | .error name => .error ⟨missing name, gathered.2⟩

-- Why an array is too short to hold the field `name`.
def shortArray (name : String) : Reason :=
  .invalidLength (l.names.idxOf name) (.record l.title) (some l.fields.length)

-- Reads a record.
def decode : Decoder α
  | 0, .array start _ => .error (Node.tooDeep start)
  | 0, .object start _ => .error (Node.tooDeep start)
  | room + 1, .array _ items => do
    l.close l.shortArray (← gatherItems room l.fields items l.empty)
  | room + 1, .object _ members => do
    l.close .missingField (← l.gatherMembers room members [] l.empty)
  | _, node => .error (node.mismatch (.record l.title))

end Layout

-- A field that has to stand in the text.
def required {α : Type} (name : String) (value : Option α) : Except String α :=
  match value with
  | some v => .ok v
  | none => .error name

end ChainHost.Json
