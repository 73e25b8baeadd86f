import ChainHost.Pattern.Scanner
import ChainHost.Unicode.Letter

namespace ChainHost.Pattern

open Scan

def isHexDigit (c : Char) : Bool :=
  (Unicode.CharSet.hexValue? c).isSome

def hexNumber (digits : List Char) : Nat :=
  digits.foldl (fun n c => n * 16 + (Unicode.CharSet.hexValue? c).getD 0) 0

-- The characters that have a meaning of their own in patterns.
def isMeta (c : Char) : Bool :=
  c ∈ ['\\', '.', '+', '*', '?', '(', ')', '|', '[', ']', '{', '}', '^', '$', '#', '&', '-', '~']

-- The characters that stand for themselves after a backslash.
def isEscapable (c : Char) : Bool :=
  isMeta c || (c.toNat < 0x80 && !c.isAlphanum && c != '<' && c != '>')

-- The character of a code point, if there is one.
def scalar? (n : Nat) : Option Char :=
  if n.isValidChar then some (Char.ofNat n) else none

-- Reads the digits of a code point, `count` of them.
def hexDigits (start count : Nat) : Scan Ast := do
  let first ← pos
  let digits ← go count true
  let _ ← bumpAndSkip
  let span ← spanFrom first
  match scalar? (hexNumber digits) with
  | some c => return .literal ⟨⟨start, span.stop⟩, c, count == 2⟩
  | none => fail .escapeHexInvalid span
where
  go : Nat → Bool → Scan (List Char)
    | 0, _ => return []
    | n + 1, isFirst => do
      if !isFirst then
        if !(← bumpAndSkip) then fail .escapeUnexpectedEnd (← here)
      match ← char? with
      | some c =>
        if isHexDigit c then return c :: (← go n false)
        else fail .escapeHexInvalidDigit (← charSpan)
      | none => fail .escapeUnexpectedEnd (← here)

-- Takes characters up to a closing brace, each after what may be skipped.
def upToBrace (check : Char → Scan Unit) : Nat → Scan (List Char)
  | 0 => return []
  | fuel + 1 => do
    let more ← bumpAndSkip
    match ← char? with
    | some c =>
      if !more || c = '}' then return []
      else
        check c
        return c :: (← upToBrace check fuel)
    | none => return []

-- Reads a code point in braces.
def hexInBraces (start : Nat) : Scan Ast := do
  let brace ← pos
  let digits ← upToBrace
    (fun c => do if !isHexDigit c then fail .escapeHexInvalidDigit (← charSpan))
    (← get).rest.length
  if (← char?).isNone then fail .escapeUnexpectedEnd (← spanFrom brace)
  let stop ← pos
  let _ ← bumpAndSkip
  if digits.isEmpty then fail .escapeHexEmpty (← spanFrom brace)
  match scalar? (hexNumber digits) with
  | some c => return .literal ⟨← spanFrom start, c, false⟩
  | none => fail .escapeHexInvalid ⟨brace + 1, stop⟩

-- Reads a code point after its letter.
def hex (start : Nat) (letter : Char) : Scan Ast := do
  if !(← bumpAndSkip) then fail .escapeUnexpectedEnd (← here)
  if (← char?) = some '{' then hexInBraces start
  else hexDigits start (if letter = 'x' then 2 else if letter = 'u' then 4 else 8)

-- The text before the first occurrence of a mark and the text after it.
def splitAt? (mark : List Char) : List Char → Option (List Char × List Char)
  | [] => none
  | c :: cs =>
    if mark.isPrefixOf (c :: cs) then some ([], (c :: cs).drop mark.length)
    else (splitAt? mark cs).map fun (before, after) => (c :: before, after)

-- The name of a set of characters, and whether a sign in it negates it.
def setName (text : List Char) : SetName × Bool :=
  let pair (p : List Char × List Char) : SetName :=
    .withValue (String.ofList p.1) (String.ofList p.2)
  match splitAt? ['!', '='] text with
  | some p => (pair p, true)
  | none =>
    match (splitAt? [':'] text).orElse fun _ => splitAt? ['='] text with
    | some p => (pair p, false)
    | none => (.alone (String.ofList text), false)

-- Reads a named set of characters after its letter.
def namedSet (start : Nat) (letter : Char) : Scan Ast := do
  let negated := letter == 'P'
  if !(← bumpAndSkip) then fail .escapeUnexpectedEnd (← here)
  match ← char? with
  | some '{' =>
    let text ← upToBrace (fun _ => pure ()) (← get).rest.length
    if (← char?).isNone then fail .escapeUnexpectedEnd (← here)
    advance 1
    let (name, sign) := setName text
    return .named (← spanFrom start) (negated != sign) name
  | some '\\' => fail .namedClassInvalid (← charSpan)
  | some c =>
    let _ ← bumpAndSkip
    return .named (← spanFrom start) negated (.alone c.toString)
  | none => fail .escapeUnexpectedEnd (← here)

-- Reads what may follow `\b` in braces. A brace that starts no name is left where it is.
def specialBoundary? (start : Nat) : Scan (Option Assertion) := do
  let saved ← get
  let isNameChar (c : Char) : Bool := c.isAlpha || c == '-'
  if !(← bumpAndSkip) then fail .wordBoundaryUnexpectedEnd (← spanFrom start)
  let first ← pos
  if !((← char?).any isNameChar) then
    set saved
    return none
  let name ← takeWhile isNameChar
  if (← char?) != some '}' then fail .wordBoundaryUnclosed (← spanFrom saved.pos)
  let span ← spanFrom first
  advance 1
  match String.ofList name with
  | "start" => return some .wordStart
  | "end" => return some .wordEnd
  | "start-half" => return some .wordStartHalf
  | "end-half" => return some .wordEndHalf
  | _ => fail .wordBoundaryUnrecognized span

-- The character that a letter after a backslash stands for.
def controlEscape? : Char → Option Char
  | 'a' => some '\x07'
  | 'f' => some '\x0c'
  | 't' => some '\t'
  | 'n' => some '\n'
  | 'r' => some '\r'
  | 'v' => some '\x0b'
  | _ => none

-- The class that a letter after a backslash stands for.
def shortClass? (c : Char) : Option ShortClass :=
  match c.toLower with
  | 'd' => some .digit
  | 's' => some .space
  | 'w' => some .word
  | _ => none

-- The assertion that a letter after a backslash stands for.
def assertion? : Char → Option Assertion
  | 'A' => some .textStart
  | 'z' => some .textEnd
  | 'b' => some .wordBoundary
  | 'B' => some .notWordBoundary
  | '<' => some .wordStart
  | '>' => some .wordEnd
  | _ => none

-- Reads what a backslash starts.
def escaped : Scan Ast := do
  let start ← pos
  advance 1
  match ← char? with
  | none => fail .escapeUnexpectedEnd (← spanFrom start)
  | some c =>
    if c.isDigit then fail .backreference ⟨start, (← pos) + 1⟩
    if c = 'x' ∨ c = 'u' ∨ c = 'U' then return ← hex start c
    if c = 'p' ∨ c = 'P' then return ← namedSet start c
    advance 1
    let span ← spanFrom start
    if let some kind := shortClass? c then return .short span c.isUpper kind
    if isEscapable c then return .literal ⟨span, c, false⟩
    if let some d := controlEscape? c then return .literal ⟨span, d, false⟩
    match assertion? c with
    | some .wordBoundary =>
      if (← char?) = some '{' then
        match ← specialBoundary? start with
        | some kind => return .assertion (← spanFrom start) kind
        | none => return .assertion span .wordBoundary
      else return .assertion span .wordBoundary
    | some kind => return .assertion span kind
    | none => fail .escapeUnrecognized span

-- Takes a character that stands for itself.
def verbatim (c : Char) : Scan Literal := do
  let span ← charSpan
  advance 1
  return ⟨span, c, false⟩

-- Reads a part of a pattern that is no group, class or repetition.
def primitive (c : Char) : Scan Ast := do
  let span ← charSpan
  match c with
  | '\\' => escaped
  | '.' =>
    advance 1
    return .dot span
  | '^' =>
    advance 1
    return .assertion span .lineStart
  | '$' =>
    advance 1
    return .assertion span .lineEnd
  | c => return .literal (← verbatim c)

-- Reads one end of a range, or a part of a class that is no range.
def classPart (c : Char) : Scan Ast := do
  if c = '\\' then escaped else return .literal (← verbatim c)

def asClassSet : Ast → Scan ClassSet
  | .literal l => return .literal l
  | .named span negated name => return .named span negated name
  | .short span negated kind => return .short span negated kind
  | part => fail .classEscapeInvalid part.span

def asLiteral : Ast → Scan Literal
  | .literal l => return l
  | part => fail .classRangeLiteral part.span

-- Reads a range of a class, or a single part of it.
def classRange (openSpan : Span) (c : Char) : Scan ClassSet := do
  let first ← classPart c
  skip
  match ← char? with
  | none => fail .classUnclosed openSpan
  | some d =>
    let second ← secondAfterSkip?
    if d != '-' || second == some ']' || second == some '-' then asClassSet first
    else
      if !(← bumpAndSkip) then fail .classUnclosed openSpan
      match ← char? with
      | none => fail .classUnclosed openSpan
      | some e =>
        let last ← classPart e
        let span : Span := ⟨first.span.start, last.span.stop⟩
        let first ← asLiteral first
        let last ← asLiteral last
        if last.char < first.char then fail .classRangeInvalid span
        return .range span first last

-- The names of the classes that are written between colons.
def posixNames : List String :=
  ["alnum", "alpha", "ascii", "blank", "cntrl", "digit", "graph", "lower", "print", "punct",
    "space", "upper", "word", "xdigit"]

-- Reads a class that is written between colons. What is no such class is left where it is.
def posixClass? : Scan (Option ClassSet) := do
  let saved ← get
  let giveUp : Scan (Option ClassSet) := do
    set saved
    return none
  advance 1
  if (← char?) != some ':' then return ← giveUp
  advance 1
  let negated := (← char?) == some '^'
  if negated then advance 1
  let name := (← get).rest.takeWhile (· != ':')
  advance name.length
  if !(← bumpIf ":]") then return ← giveUp
  let name := String.ofList name
  if posixNames.contains name then return some (.posix (← spanFrom saved.pos) negated name)
  else giveUp

-- An operation on the sets on either side of it.
inductive SetOperation where
  | inter
  | diff
  | symmDiff

def SetOperation.apply (op : SetOperation) (left right : ClassSet) : ClassSet :=
  let span : Span := ⟨left.span.start, right.span.stop⟩
  match op with
  | inter => .inter span left right
  | diff => .diff span left right
  | symmDiff => .symmDiff span left right

-- The operation that two characters stand for.
def operation? (c : Char) (second : Option Char) : Option SetOperation :=
  if second != some c then none
  else match c with
    | '&' => some .inter
    | '-' => some .diff
    | '~' => some .symmDiff
    | _ => none

-- The set to the left of the next operation, which waits for its right side.
def closeSet (left : Option (SetOperation × ClassSet)) (span : Span) (items : List ClassSet) :
    ClassSet :=
  let right := ClassSet.ofItems span items.reverse
  match left with
  | some (op, left) => op.apply left right
  | none => right

-- Takes hyphens at the start of a class.
def leadingHyphens (start : Nat) : Nat → List ClassSet → Scan (List ClassSet)
  | 0, items => return items
  | fuel + 1, items => do
    if (← char?) = some '-' then
      let item := ClassSet.literal ⟨← charSpan, '-', false⟩
      if !(← bumpAndSkip) then fail .classUnclosed ⟨start, start⟩
      leadingHyphens start fuel (item :: items)
    else return items

mutual

-- Reads a class from its opening bracket on.
def bracketed : Nat → Scan (Span × Bool × ClassSet)
  | 0 => do fail .classUnclosed (← here)
  | fuel + 1 => do
    let start ← pos
    if !(← bumpAndSkip) then fail .classUnclosed (← spanFrom start)
    let negated := (← char?) == some '^'
    if negated then
      if !(← bumpAndSkip) then fail .classUnclosed (← spanFrom start)
    let span ← here
    let hyphens ← leadingHyphens start (← get).rest.length []
    let items ←
      if hyphens.isEmpty && (← char?) == some ']' then do
        let item := ClassSet.literal ⟨← charSpan, ']', false⟩
        if !(← bumpAndSkip) then fail .classUnclosed (← spanFrom start)
        pure [item]
      else pure hyphens
    let set ← classBody fuel (← spanFrom start) none span items
    advance 1
    return (← spanFrom start, negated, set)

-- Reads a class up to its closing bracket. The items of the current set are in reverse.
def classBody : Nat → Span → Option (SetOperation × ClassSet) → Span → List ClassSet →
    Scan ClassSet
  | 0, openSpan, _, _, _ => fail .classUnclosed openSpan
  | fuel + 1, openSpan, left, span, items => do
    skip
    match ← char? with
    | none => fail .classUnclosed openSpan
    | some ']' => return closeSet left span items
    | some '[' =>
      match ← posixClass? with
      | some item => classBody fuel openSpan left span (item :: items)
      | none =>
        let (inner, negated, set) ← bracketed fuel
        classBody fuel openSpan left span (.bracketed inner negated set :: items)
    | some c =>
      match operation? c (← second?) with
      | some op =>
        advance 2
        classBody fuel openSpan (some (op, closeSet left span items)) (← here) []
      | none =>
        let item ← classRange openSpan c
        classBody fuel openSpan left span (item :: items)

end

-- Splits off the part that a repetition repeats.
def repeated (parts : List Ast) : Scan (Ast × List Ast) := do
  match parts with
  | [] | .empty _ :: _ | .flags .. :: _ => fail .repetitionMissing (← here)
  | part :: parts => return (part, parts)

-- Reads `?`, `*` or `+` after the parts so far, which are in reverse.
def uncounted (min : Nat) (max : Option Nat) (parts : List Ast) : Scan (List Ast) := do
  let (part, parts) ← repeated parts
  advance 1
  let lazy := (← char?) == some '?'
  if lazy then advance 1
  return .repeat ⟨part.span.start, ← pos⟩ min max (!lazy) part :: parts

-- The greatest count of a repetition.
def maxCount : Nat := 0xFFFFFFFF

-- Reads a count; what is wrong with it may come second to what follows.
def count : Scan (Except SyntaxError Nat) := do
  let blanks := (← get).rest.takeWhile Text.isBlank
  advance blanks.length
  let start ← pos
  let digits ← takeWhile Char.isDigit
  let span ← spanFrom start
  let _ ← takeWhile Text.isBlank
  let n := digits.foldl (fun n c => n * 10 + (c.toNat - '0'.toNat)) 0
  return if digits.isEmpty then .error ⟨.repetitionCountEmpty, span, none⟩
    else if n > maxCount then .error ⟨.decimalInvalid, span, none⟩
    else .ok n

-- Reads the counts of a repetition after its brace, which is at `start`.
def counts (start : Nat) : Scan (Nat × Option Nat) := do
  let unclosed : Scan Unit := do fail .repetitionCountUnclosed (← spanFrom start)
  if !(← bumpAndSkip) then unclosed
  let min ← count
  if (← char?).isNone then unclosed
  let range ←
    if (← char?) = some ',' then do
      if !(← bumpAndSkip) then unclosed
      if (← char?) != some '}' then do
        let min ← min
        let max ← (← count)
        pure (min, some max)
      else do pure (← min, none)
    else do
      let n ← min
      pure (n, some n)
  if (← char?) != some '}' then unclosed
  return range

-- Reads a counted repetition after the parts so far, which are in reverse.
def counted (parts : List Ast) : Scan (List Ast) := do
  let start ← pos
  let (part, parts) ← repeated parts
  let (min, max) ← counts start
  let more ← bumpAndSkip
  let lazy := more && (← char?) == some '?'
  if lazy then advance 1
  if max.any (· < min) then fail .repetitionCountInvalid (← spanFrom start)
  return .repeat ⟨part.span.start, ← pos⟩ min max (!lazy) part :: parts

-- The first character of a group's name.
def isNameStart (c : Char) : Bool :=
  c == '_' || Unicode.letters.contains c

-- The further characters of a group's name.
def isNameChar (c : Char) : Bool :=
  c == '_' || c == '.' || c == '[' || c == ']' || Unicode.letters.contains c ||
    Unicode.numbers.contains c

-- Takes a group's name up to its closing mark.
def nameChars : Nat → Bool → Scan (List Char)
  | 0, _ => return []
  | fuel + 1, isFirst => do
    match ← char? with
    | none | some '>' => return []
    | some c =>
      if !(if isFirst then isNameStart c else isNameChar c) then
        fail .groupNameInvalid (← charSpan)
      advance 1
      return c :: (← nameChars fuel false)

-- Reads a group's name, which no other group may have.
def groupName : Scan Unit := do
  let start ← pos
  if (← char?).isNone then fail .groupNameUnexpectedEnd (← here)
  let chars ← nameChars (← get).rest.length true
  if (← char?).isNone then fail .groupNameUnexpectedEnd (← here)
  let span ← spanFrom start
  advance 1
  if chars.isEmpty then fail .groupNameEmpty ⟨start, start⟩
  let name := String.ofList chars
  match (← get).names.find? fun n => n.1 == name with
  | some (_, earlier) => fail .groupNameDuplicate span (some earlier)
  | none => modify fun s => { s with names := (name, span) :: s.names }

def flag? : Char → Option Flag
  | 'i' => some .ignoreCase
  | 'm' => some .multiLine
  | 's' => some .dotAll
  | 'U' => some .swapGreed
  | 'u' => some .unicode
  | 'R' => some .crlf
  | 'x' => some .verbose
  | _ => none

-- The flags of a group so far, with their spans, and the sign that clears those after it.
structure FlagList where
  set : List (Flag × Span)
  cleared : List (Flag × Span)
  sign : Option Span

-- Reads flags up to the mark that ends them.
def flagList : Nat → FlagList → Scan FlagList
  | 0, flags => return flags
  | fuel + 1, flags => do
    match ← char? with
    | none | some ':' | some ')' => return flags
    | some c =>
      let span ← charSpan
      let flags ←
        if c = '-' then
          match flags.sign with
          | some earlier => fail .flagRepeatedNegation span (some earlier)
          | none => pure { flags with sign := some span }
        else
          match flag? c with
          | none => fail .flagUnrecognized span
          | some f =>
            match (flags.set ++ flags.cleared).find? fun e => e.1 == f with
            | some (_, earlier) => fail .flagDuplicate span (some earlier)
            | none =>
              if flags.sign.isSome then
                pure { flags with cleared := flags.cleared ++ [(f, span)] }
              else pure { flags with set := flags.set ++ [(f, span)] }
      if !(← bump) then fail .flagUnexpectedEnd (← here)
      flagList fuel flags

-- What stands at the start of a group.
inductive Opening where
  | flags (change : FlagChange)
  | group (kind : GroupKind)

-- Reads the flags of a group; a closing parenthesis after them makes them a part of their own.
def flagOpening (mark : Span) : Scan Opening := do
  let flags ← flagList (← get).rest.length ⟨[], [], none⟩
  if let (some sign, []) := (flags.sign, flags.cleared) then fail .flagDanglingNegation sign
  let change : FlagChange := ⟨flags.set.map Prod.fst, flags.cleared.map Prod.fst⟩
  let last ← char?
  advance 1
  if last = some ')' then
    if flags.set.isEmpty && flags.cleared.isEmpty then fail .repetitionMissing mark
    return .flags change
  else return .group (.plain change)

-- Reads the start of a group.
def opening : Scan Opening := do
  let openSpan ← charSpan
  advance 1
  skip
  for mark in ["?=", "?!", "?<=", "?<!"] do
    if ← bumpIf mark then fail .lookAround (← spanFrom openSpan.start)
  let mark ← here
  if (← bumpIf "?P<") || (← bumpIf "?<") then
    groupName
    return .group .capturing
  else if ← bumpIf "?" then
    if (← char?).isNone then fail .groupUnclosed openSpan
    flagOpening mark
  else return .group .capturing

-- Turns verbose mode on or off for what follows.
def setVerbose (change : FlagChange) : Scan Unit :=
  modify fun s => { s with verbose := (change.state? .verbose).getD s.verbose }

mutual

-- Reads a group from its opening parenthesis on.
def group : Nat → Scan Ast
  | 0 => do fail .groupUnclosed (← charSpan)
  | fuel + 1 => do
    let openSpan ← charSpan
    match ← opening with
    | .flags change =>
      setVerbose change
      return .flags (← spanFrom openSpan.start) change
    | .group kind =>
      let verbose := (← get).verbose
      if let .plain change := kind then setVerbose change
      let body ← alternatives fuel
      if (← char?).isNone then fail .groupUnclosed openSpan
      modify fun s => { s with verbose }
      advance 1
      return .group (← spanFrom openSpan.start) kind body

-- Reads alternatives up to a closing parenthesis or the end.
def alternatives : Nat → Scan Ast
  | 0 => return .empty (← here)
  | fuel + 1 => do
    let start ← pos
    match ← branches fuel with
    | [branch] => return branch
    | branches => return .alternation (← spanFrom start) branches

def branches : Nat → Scan (List Ast)
  | 0 => return []
  | fuel + 1 => do
    let start ← pos
    let parts ← parts fuel []
    let branch := Ast.ofParts (← spanFrom start) parts.reverse
    if (← char?) = some '|' then
      advance 1
      return branch :: (← branches fuel)
    else return [branch]

-- Reads the parts of an alternative after those so far, which are in reverse.
def parts : Nat → List Ast → Scan (List Ast)
  | 0, done => return done
  | fuel + 1, done => do
    skip
    match ← char? with
    | none | some '|' | some ')' => return done
    | some '(' => parts fuel ((← group fuel) :: done)
    | some '[' =>
      let (span, negated, set) ← bracketed (3 * (← get).rest.length)
      parts fuel (.bracketed span negated set :: done)
    | some '?' => parts fuel (← uncounted 0 (some 1) done)
    | some '*' => parts fuel (← uncounted 0 none done)
    | some '+' => parts fuel (← uncounted 1 none done)
    | some '{' => parts fuel (← counted done)
    | some c => parts fuel ((← primitive c) :: done)

end

-- Goes one level deeper, if there is room.
def deeper (room : Nat) (span : Span) : Except SyntaxError Nat :=
  match room with
  | 0 => .error ⟨.nestLimitExceeded, span, none⟩
  | room + 1 => .ok room

mutual

-- Checks that a class is not nested deeper than there is room.
def ClassSet.checkNesting : Nat → ClassSet → Except SyntaxError Unit
  | room, .bracketed span _ set => do set.checkNesting (← deeper room span)
  | room, .union span items => do checkItems (← deeper room span) items
  | room, .inter span left right | room, .diff span left right
  | room, .symmDiff span left right => do
    let room ← deeper room span
    left.checkNesting room
    right.checkNesting room
  | _, _ => .ok ()

def checkItems : Nat → List ClassSet → Except SyntaxError Unit
  | _, [] => .ok ()
  | room, item :: items => do
    item.checkNesting room
    checkItems room items

end

mutual

-- Checks that a pattern is not nested deeper than there is room.
def Ast.checkNesting : Nat → Ast → Except SyntaxError Unit
  | room, .bracketed span _ set => do set.checkNesting (← deeper room span)
  | room, .repeat span _ _ _ body => do body.checkNesting (← deeper room span)
  | room, .group span _ body => do body.checkNesting (← deeper room span)
  | room, .alternation span parts | room, .concat span parts => do
    checkParts (← deeper room span) parts
  | _, _ => .ok ()

def checkParts : Nat → List Ast → Except SyntaxError Unit
  | _, [] => .ok ()
  | room, part :: parts => do
    part.checkNesting room
    checkParts room parts

end

-- Reads a pattern.
def Ast.ofText (pattern : String) : Except SyntaxError Ast := do
  let cs := pattern.toList
  let start : Scanner := { pos := 0, rest := cs, verbose := false, names := [] }
  let (ast, s) ← (alternatives (4 * cs.length + 4)).run start
  if !s.rest.isEmpty then throw ⟨.groupUnopened, ⟨s.pos, s.pos + 1⟩, none⟩
  ast.checkNesting nestLimit
  return ast

end ChainHost.Pattern
