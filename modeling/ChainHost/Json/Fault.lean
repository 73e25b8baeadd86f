import ChainHost.Json.Value
import ChainHost.Text.Quoted

namespace ChainHost.Json

-- What stands where something else was expected.
inductive Found where
  | null
  | bool (value : Bool)
  | integer (value : Int)
  | double (value : Double)
  | string (value : String)
  | sequence
  | map
  deriving Repr

-- What a place of a document is expected to hold.
inductive Expected where
  | string
  | path
  | size
  | sequence
  | map
  | unit
  | variant
  | record (title : String)
  | tagged (title : String)
  deriving Repr

-- Why a document cannot be read.
inductive Reason where
  | endOfValue
  | endOfList
  | endOfObject
  | endOfString
  | expectedColon
  | expectedListEnd
  | expectedObjectEnd
  | expectedWord
  | expectedValue
  | controlCharacter
  | invalidEscape
  | loneSurrogate
  | unfinishedSurrogate
  | invalidNumber
  | numberOutOfRange
  | keyNotString
  | trailingComma
  | trailingCharacters
  | tooDeep
  | invalidType (found : Found) (expected : Expected)
  | negativeSize (value : Int)
  | invalidLength (length : Nat) (expected : Expected) (full : Option Nat)
  | missingField (name : String)
  | duplicateField (name : String)
  | unknownField (name : String) (known : List String)
  | unknownVariant (name : String) (known : List String)
  deriving Repr

-- A reason and the byte offset at which it shows.
structure Fault where
  reason : Reason
  offset : Nat
  deriving Repr

def Found.message : Found → String
  | null => "null"
  | bool true => "boolean `true`"
  | bool false => "boolean `false`"
  | integer i => "integer `" ++ String.ofList (writeInteger i) ++ "`"
  | double x => "floating point `" ++ String.ofList (writeDouble x) ++ "`"
  | string s => "string " ++ Text.quoted s
  | sequence => "sequence"
  | map => "map"

def Expected.message : Expected → String
  | string => "a string"
  | path => "path string"
  | size => "usize"
  | sequence => "a sequence"
  | map => "a map"
  | unit => "unit"
  | variant => "variant identifier"
  | record title => "struct " ++ title
  | tagged title => "adjacently tagged enum " ++ title

-- Names to choose from.
def oneOf (names : List String) : String :=
  let ticked := names.map fun n => "`" ++ n ++ "`"
  match ticked with
  | [a] => a
  | [a, b] => a ++ " or " ++ b
  | _ => "one of " ++ String.intercalate ", " ticked

def Reason.message : Reason → String
  | endOfValue => "EOF while parsing a value"
  | endOfList => "EOF while parsing a list"
  | endOfObject => "EOF while parsing an object"
  | endOfString => "EOF while parsing a string"
  | expectedColon => "expected `:`"
  | expectedListEnd => "expected `,` or `]`"
  | expectedObjectEnd => "expected `,` or `\x7d`"
  | expectedWord => "expected ident"
  | expectedValue => "expected value"
  | controlCharacter => "control character (\\u0000-\\u001F) found while parsing a string"
  | invalidEscape => "invalid escape"
  | loneSurrogate => "lone leading surrogate in hex escape"
  | unfinishedSurrogate => "unexpected end of hex escape"
  | invalidNumber => "invalid number"
  | numberOutOfRange => "number out of range"
  | keyNotString => "key must be a string"
  | trailingComma => "trailing comma"
  | trailingCharacters => "trailing characters"
  | tooDeep => "recursion limit exceeded"
  | invalidType found expected =>
    "invalid type: " ++ found.message ++ ", expected " ++ expected.message
  | negativeSize i =>
    "invalid value: integer `" ++ String.ofList (writeInteger i) ++ "`, expected usize"
  | invalidLength n expected full =>
    "invalid length " ++ toString n ++ ", expected " ++ expected.message ++
      (match full with
        | some m => " with " ++ toString m ++ (if m = 1 then " element" else " elements")
        | none => "")
  | missingField name => "missing field `" ++ name ++ "`"
  | duplicateField name => "duplicate field `" ++ name ++ "`"
  | unknownField name known => "unknown field `" ++ name ++ "`, expected " ++ oneOf known
  | unknownVariant name known => "unknown variant `" ++ name ++ "`, expected " ++ oneOf known

-- The line of a byte offset, and as its column the bytes before it on that line.
def position (text : List Char) (offset : Nat) : Nat × Nat :=
  go text offset 1 0
where
  go : List Char → Nat → Nat → Nat → Nat × Nat
    | [], _, line, column => (line, column)
    | c :: cs, offset, line, column =>
      if offset < c.utf8Size then (line, column + offset)
      else if c = '\n' then go cs (offset - 1) (line + 1) 0
      else go cs (offset - c.utf8Size) line (column + c.utf8Size)

-- The message of a fault in a text.
def Fault.message (text : String) (f : Fault) : String :=
  let (line, column) := position text.toList f.offset
  f.reason.message ++ " at line " ++ toString line ++ " column " ++ toString column

end ChainHost.Json
