import ChainHost.Json.Document
import ChainHost.Unicode.CharSet

namespace ChainHost.Json

-- What is left of a text, and how many bytes stand before it.
structure Cursor where
  offset : Nat
  rest : List Char
  deriving Repr

-- The blanks between tokens.
def isSpace (c : Char) : Bool :=
  c == ' ' || c == '\t' || c == '\n' || c == '\r'

namespace Cursor

-- The character that stands at the cursor.
def next (c : Cursor) : Option Char :=
  c.rest.head?

def skipSpaces (c : Cursor) : Cursor :=
  ⟨c.offset + (c.rest.takeWhile isSpace).length, c.rest.dropWhile isSpace⟩

end Cursor

def byteLength (cs : List Char) : Nat :=
  cs.foldr (fun c n => c.utf8Size + n) 0

-- Reads the rest of a word such as `null`.
def readWord : List Char → Cursor → Except Fault Cursor
  | [], c => .ok c
  | _ :: _, ⟨offset, []⟩ => .error ⟨.endOfValue, offset⟩
  | w :: ws, ⟨offset, c :: cs⟩ =>
    if c = w then readWord ws ⟨offset + 1, cs⟩ else .error ⟨.expectedWord, offset + 1⟩

-- The code unit that four hexadecimal digits stand for.
def unit? (a b c d : Char) : Option Nat := do
  let digit := Unicode.CharSet.hexValue?
  return (((← digit a) * 16 + (← digit b)) * 16 + (← digit c)) * 16 + (← digit d)

-- The fault of a text at `offset` that does not begin with four hexadecimal digits.
def unitFault (cs : List Char) (offset : Nat) : Fault :=
  if byteLength cs ≥ 4 then ⟨.invalidEscape, offset + 4⟩
  else ⟨.endOfString, offset + byteLength cs⟩

def isLeading (unit : Nat) : Bool :=
  0xD800 ≤ unit && unit ≤ 0xDBFF

def isTrailing (unit : Nat) : Bool :=
  0xDC00 ≤ unit && unit ≤ 0xDFFF

-- The character of a pair of surrogates.
def ofPair (leading trailing : Nat) : Char :=
  Char.ofNat (0x10000 + (leading - 0xD800) * 0x400 + (trailing - 0xDC00))

-- The character that a letter after a backslash stands for.
def shortEscape? : Char → Option Char
  | '"' => some '"'
  | '\\' => some '\\'
  | '/' => some '/'
  | 'b' => some '\x08'
  | 'f' => some '\x0c'
  | 'n' => some '\n'
  | 'r' => some '\r'
  | 't' => some '\t'
  | _ => none

-- The fault of a leading surrogate that the text `cs` follows, where no escape stands.
def pairFault (cs : List Char) (offset : Nat) : Fault :=
  match cs with
  | [] => ⟨.endOfString, offset⟩
  | ['\\'] => ⟨.endOfString, offset + 1⟩
  | '\\' :: 'u' :: rest => unitFault rest (offset + 2)
  | '\\' :: _ => ⟨.unfinishedSurrogate, offset + 2⟩
  | _ => ⟨.unfinishedSurrogate, offset + 1⟩

-- Puts a character in front of a text that has been read.
def consChar (c : Char) (r : Except Fault (List Char × Cursor)) :
    Except Fault (List Char × Cursor) :=
  r.map fun (cs, cursor) => (c :: cs, cursor)

-- Reads the rest of a string after its opening quote. A reader that is not `strict` does not care
-- for surrogates, and leaves a control character where it stands.
def readText (strict : Bool) : List Char → Nat → Except Fault (List Char × Cursor)
  | [], offset => .error ⟨.endOfString, offset⟩
  | '"' :: cs, offset => .ok ([], ⟨offset + 1, cs⟩)
  | ['\\'], offset => .error ⟨.endOfString, offset + 1⟩
  | '\\' :: 'u' :: a :: b :: c :: d :: cs, offset =>
    match unit? a b c d with
    | none => .error (unitFault (a :: b :: c :: d :: cs) (offset + 2))
    | some unit =>
      if strict && isTrailing unit then .error ⟨.loneSurrogate, offset + 6⟩
      else if strict && isLeading unit then
        match cs with
        | '\\' :: 'u' :: a' :: b' :: c' :: d' :: cs' =>
          match unit? a' b' c' d' with
          | none => .error (unitFault (a' :: b' :: c' :: d' :: cs') (offset + 8))
          | some unit' =>
            if isTrailing unit' then
              consChar (ofPair unit unit') (readText strict cs' (offset + 12))
            else .error ⟨.loneSurrogate, offset + 12⟩
        | _ => .error (pairFault cs (offset + 6))
      else consChar (Char.ofNat unit) (readText strict cs (offset + 6))
  | '\\' :: 'u' :: cs, offset => .error (unitFault cs (offset + 2))
  | '\\' :: e :: cs, offset =>
    match shortEscape? e with
    | some c => consChar c (readText strict cs (offset + 2))
    | none => .error ⟨.invalidEscape, offset + 2⟩
  | c :: cs, offset =>
    if c.toNat < 0x20 then .error ⟨.controlCharacter, if strict then offset + 1 else offset⟩
    else consChar c (readText strict cs (offset + c.utf8Size))

def digitValue (c : Char) : Nat :=
  c.toNat - '0'.toNat

-- Reads the digits before the point, of which there is one or the first is no zero.
def readWhole (c : Cursor) : Except Fault (List Nat × Cursor) :=
  let digits := c.rest.takeWhile Char.isDigit
  let rest := c.rest.dropWhile Char.isDigit
  match digits, rest with
  | [], [] => .error ⟨.endOfValue, c.offset⟩
  | [], _ => .error ⟨.invalidNumber, c.offset + 1⟩
  | '0' :: _ :: _, _ => .error ⟨.invalidNumber, c.offset + 2⟩
  | _, _ => .ok (digits.map digitValue, ⟨c.offset + digits.length, rest⟩)

-- Reads a point and the digits after it.
def readFraction (c : Cursor) : Except Fault (Option (List Nat) × Cursor) :=
  match c.rest with
  | '.' :: cs =>
    let digits := cs.takeWhile Char.isDigit
    let rest := cs.dropWhile Char.isDigit
    match digits, rest with
    | [], [] => .error ⟨.endOfValue, c.offset + 1⟩
    | [], _ => .error ⟨.invalidNumber, c.offset + 2⟩
    | _, _ => .ok (some (digits.map digitValue), ⟨c.offset + 1 + digits.length, rest⟩)
  | _ => .ok (none, c)

-- Takes the sign of an exponent.
def readSign (c : Cursor) : Bool × Cursor :=
  match c.rest with
  | '+' :: cs => (false, ⟨c.offset + 1, cs⟩)
  | '-' :: cs => (true, ⟨c.offset + 1, cs⟩)
  | _ => (false, c)

-- Reads an exponent.
def readExponent (c : Cursor) : Except Fault (Option (Bool × List Nat) × Cursor) :=
  match c.rest with
  | e :: cs =>
    if e = 'e' ∨ e = 'E' then
      let (negative, c) := readSign ⟨c.offset + 1, cs⟩
      let digits := c.rest.takeWhile Char.isDigit
      let rest := c.rest.dropWhile Char.isDigit
      match digits, rest with
      | [], [] => .error ⟨.endOfValue, c.offset⟩
      | [], _ => .error ⟨.invalidNumber, c.offset + 1⟩
      | _, _ => .ok (some (negative, digits.map digitValue), ⟨c.offset + digits.length, rest⟩)
    else .ok (none, c)
  | [] => .ok (none, c)

-- Reads a numeral after its sign.
def readNumeral (negative : Bool) (c : Cursor) : Except Fault (Numeral × Cursor) := do
  let (whole, c) ← readWhole c
  let (fraction, c) ← readFraction c
  let (exponent, c) ← readExponent c
  return (⟨negative, whole, fraction, exponent⟩, c)

-- The number of a numeral that ends at `stop`.
def numberAt (stop : Nat) (n : Numeral) : Except Fault Number :=
  match n.value with
  | .ok value => .ok value
  | .error unread => .error ⟨.numberOutOfRange, stop - unread⟩

-- A node at which reading stops.
def brokenAt (c : Cursor) (strict skim : Fault) : Node × Option Cursor :=
  (.broken c.offset c.next strict skim, none)

-- No value starts at the cursor.
def absentAt (c : Cursor) : Node × Option Cursor :=
  let f : Fault :=
    ⟨if c.next.isSome then .expectedValue else .endOfValue, peek c.offset c.next⟩
  brokenAt c f f

def wordNode (c : Cursor) (rest : List Char) (tail : List Char) (node : Span → Node) :
    Node × Option Cursor :=
  match readWord tail ⟨c.offset + 1, rest⟩ with
  | .ok c' => (node ⟨c.offset, c'.offset⟩, some c')
  | .error f => brokenAt c f f

-- The numeral at the cursor `c`, whose digits start at `digits`.
def numberNode (c : Cursor) (negative : Bool) (digits : Cursor) : Node × Option Cursor :=
  match readNumeral negative digits with
  | .ok (n, c') => (.number ⟨c.offset, c'.offset⟩ (numberAt c'.offset n), some c')
  | .error f => brokenAt c f { f with reason := .invalidNumber }

-- The string at the cursor, `cs` being what follows its opening quote.
def stringNode (c : Cursor) (cs : List Char) : Node × Option Cursor :=
  let strict := readText true cs (c.offset + 1)
  match readText false cs (c.offset + 1) with
  | .ok (_, c') =>
    (.string ⟨c.offset, c'.offset⟩ (strict.map fun r => String.ofList r.1), some c')
  | .error skim =>
    brokenAt c (match strict with | .error f => f | .ok _ => skim) skim

mutual

-- Reads the value at a cursor. There is no cursor after a value at which reading stops.
def readNode : Nat → Cursor → Node × Option Cursor
  | 0, c => absentAt c
  | fuel + 1, c =>
    match c.rest with
    | 'n' :: cs => wordNode c cs ['u', 'l', 'l'] .null
    | 't' :: cs => wordNode c cs ['r', 'u', 'e'] (.bool · true)
    | 'f' :: cs => wordNode c cs ['a', 'l', 's', 'e'] (.bool · false)
    | '"' :: cs => stringNode c cs
    | '-' :: cs => numberNode c true ⟨c.offset + 1, cs⟩
    | '[' :: cs =>
      let (items, after) := readItems fuel (Cursor.skipSpaces ⟨c.offset + 1, cs⟩)
      (.array c.offset items, after)
    | '{' :: cs =>
      let (members, after) := readMembers fuel (Cursor.skipSpaces ⟨c.offset + 1, cs⟩)
      (.object c.offset members, after)
    | d :: _ => if d.isDigit then numberNode c false c else absentAt c
    | [] => absentAt c

-- Reads the items of an array after its opening bracket.
def readItems : Nat → Cursor → Items × Option Cursor
  | 0, c => (.ended c.offset c.next, none)
  | fuel + 1, c =>
    match c.rest with
    | [] => (.ended c.offset none, none)
    | ']' :: cs => (.ended c.offset (some ']'), some ⟨c.offset + 1, cs⟩)
    | _ => readItem fuel c

-- Reads an item and those after it.
def readItem : Nat → Cursor → Items × Option Cursor
  | 0, c => (.ended c.offset c.next, none)
  | fuel + 1, c =>
    match readNode fuel c with
    | (node, none) => (.item node (.ended c.offset c.next), none)
    | (node, some c) =>
      let c := c.skipSpaces
      match c.rest with
      | ',' :: cs =>
        let (rest, after) := readItem fuel (Cursor.skipSpaces ⟨c.offset + 1, cs⟩)
        (.item node rest, after)
      | ']' :: cs => (.item node (.ended c.offset (some ']')), some ⟨c.offset + 1, cs⟩)
      | _ => (.item node (.ended c.offset c.next), none)

-- Reads the members of an object after its opening brace.
def readMembers : Nat → Cursor → Members × Option Cursor
  | 0, c => (.ended c.offset c.next, none)
  | fuel + 1, c =>
    match c.rest with
    | [] => (.ended c.offset none, none)
    | '}' :: cs => (.ended c.offset (some '}'), some ⟨c.offset + 1, cs⟩)
    | _ => readMember fuel c

-- Reads a member and those after it.
def readMember : Nat → Cursor → Members × Option Cursor
  | 0, c => (.ended c.offset c.next, none)
  | fuel + 1, c =>
    match readNode fuel c with
    | (key, none) => (.bare key c.offset c.next, none)
    | (key, some c) =>
      let c := c.skipSpaces
      match key, c.rest with
      | .string .., ':' :: cs =>
        let colon := c.offset
        let c := Cursor.skipSpaces ⟨c.offset + 1, cs⟩
        match readNode fuel c with
        | (value, none) => (.member key colon value c.offset (.ended c.offset c.next), none)
        | (value, some c) =>
          let c := c.skipSpaces
          match c.rest with
          | ',' :: cs =>
            let (rest, after) := readMember fuel (Cursor.skipSpaces ⟨c.offset + 1, cs⟩)
            (.member key colon value c.offset rest, after)
          | '}' :: cs =>
            (.member key colon value c.offset (.ended c.offset (some '}')),
              some ⟨c.offset + 1, cs⟩)
          | _ => (.member key colon value c.offset (.ended c.offset c.next), none)
      | _, _ => (.bare key c.offset c.next, none)

end

-- The tree of a text. Every step of the reader but the first two of an item consumes a
-- character, so three steps for each character suffice.
def Document.ofText (text : String) : Document :=
  let cs := text.toList
  let start := Cursor.skipSpaces ⟨0, cs⟩
  match readNode (3 * cs.length + 1) start with
  | (root, some c) =>
    let c := c.skipSpaces
    ⟨root, c.offset, c.next⟩
  | (root, none) => ⟨root, start.offset, start.next⟩

end ChainHost.Json
