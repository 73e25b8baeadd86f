import ChainHost.Pattern.Syntax

namespace ChainHost.Pattern

inductive ErrorKind where
  | classEscapeInvalid
  | classRangeInvalid
  | classRangeLiteral
  | classUnclosed
  | decimalInvalid
  | escapeHexEmpty
  | escapeHexInvalid
  | escapeHexInvalidDigit
  | escapeUnexpectedEnd
  | escapeUnrecognized
  | flagDanglingNegation
  | flagDuplicate
  | flagRepeatedNegation
  | flagUnexpectedEnd
  | flagUnrecognized
  | groupNameDuplicate
  | groupNameEmpty
  | groupNameInvalid
  | groupNameUnexpectedEnd
  | groupUnclosed
  | groupUnopened
  | nestLimitExceeded
  | repetitionCountInvalid
  | repetitionCountEmpty
  | repetitionCountUnclosed
  | repetitionMissing
  | wordBoundaryUnclosed
  | wordBoundaryUnrecognized
  | wordBoundaryUnexpectedEnd
  | namedClassInvalid
  | backreference
  | lookAround
  | unicodeNotAllowed
  | invalidUtf8
  | propertyNotFound
  | propertyValueNotFound
  deriving DecidableEq, Repr

-- How deep groups, classes and repetitions may be nested.
def nestLimit : Nat := 250

-- The greatest size of a compiled pattern, in bytes.
def sizeLimit : Nat := 10 * 1024 * 1024

def ErrorKind.description : ErrorKind → String
  | classEscapeInvalid => "invalid escape sequence found in character class"
  | classRangeInvalid => "invalid character class range, the start must be <= the end"
  | classRangeLiteral => "invalid range boundary, must be a literal"
  | classUnclosed => "unclosed character class"
  | decimalInvalid => "decimal literal invalid"
  | escapeHexEmpty => "hexadecimal literal empty"
  | escapeHexInvalid => "hexadecimal literal is not a Unicode scalar value"
  | escapeHexInvalidDigit => "invalid hexadecimal digit"
  | escapeUnexpectedEnd => "incomplete escape sequence, reached end of pattern prematurely"
  | escapeUnrecognized => "unrecognized escape sequence"
  | flagDanglingNegation => "dangling flag negation operator"
  | flagDuplicate => "duplicate flag"
  | flagRepeatedNegation => "flag negation operator repeated"
  | flagUnexpectedEnd => "expected flag but got end of regex"
  | flagUnrecognized => "unrecognized flag"
  | groupNameDuplicate => "duplicate capture group name"
  | groupNameEmpty => "empty capture group name"
  | groupNameInvalid => "invalid capture group character"
  | groupNameUnexpectedEnd => "unclosed capture group name"
  | groupUnclosed => "unclosed group"
  | groupUnopened => "unopened group"
  | nestLimitExceeded =>
    "exceed the maximum number of nested parentheses/brackets (" ++ toString nestLimit ++ ")"
  | repetitionCountInvalid => "invalid repetition count range, the start must be <= the end"
  | repetitionCountEmpty => "repetition quantifier expects a valid decimal"
  | repetitionCountUnclosed => "unclosed counted repetition"
  | repetitionMissing => "repetition operator missing expression"
  | wordBoundaryUnclosed =>
    "special word boundary assertion is either unclosed or contains an invalid character"
  | wordBoundaryUnrecognized =>
    "unrecognized special word boundary assertion, " ++
      "valid choices are: start, end, start-half or end-half"
  | wordBoundaryUnexpectedEnd =>
    "found either the beginning of a special word boundary or a bounded repetition on a \\b " ++
      "with an opening brace, but no closing brace"
  | namedClassInvalid => "invalid Unicode character class"
  | backreference => "backreferences are not supported"
  | lookAround => "look-around, including look-ahead and look-behind, is not supported"
  | unicodeNotAllowed => "Unicode not allowed here"
  | invalidUtf8 => "pattern can match invalid UTF-8"
  | propertyNotFound => "Unicode property not found"
  | propertyValueNotFound => "Unicode property value not found"

-- What is wrong with the text of a pattern, and where.
structure SyntaxError where
  kind : ErrorKind
  span : Span
  earlier : Option Span
  deriving DecidableEq, Repr

inductive CompileError where
  | invalid (error : SyntaxError)
  | tooLarge
  deriving DecidableEq, Repr

-- A line and a column, both counted from one.
structure Place where
  line : Nat
  column : Nat
  deriving DecidableEq, Repr

-- The place before the character at an index.
def placeOf (pattern : List Char) (index : Nat) : Place :=
  (pattern.take index).foldl step ⟨1, 1⟩
where
  step (p : Place) (c : Char) : Place :=
    if c = '\n' then ⟨p.line + 1, 1⟩ else ⟨p.line, p.column + 1⟩

-- The lines of a pattern, without their ends. A line end at the very end starts no line.
def linesOf (pattern : List Char) : List String :=
  let pieces := (String.ofList pattern).splitOn "\n"
  let ended := pieces.dropLast.map fun line =>
    if line.endsWith "\r" then (line.dropEnd 1).toString else line
  ended ++ (pieces.getLast?.toList.filter fun line => line != "")

-- The marks of spans on one line, each as its first column and the column after its last.
def marks (columns : List (Nat × Nat)) : String :=
  String.ofList (go 1 columns)
where
  go : Nat → List (Nat × Nat) → List Char
    | _, [] => []
    | column, (first, after) :: rest =>
      let blanks := first - column
      let carets := max 1 (after - first)
      List.replicate blanks ' ' ++ List.replicate carets '^' ++
        go (column + blanks + carets) rest

def padLeft (width : Nat) (text : String) : String :=
  String.ofList (List.replicate (width - text.length) ' ') ++ text

namespace SyntaxError

-- The spans of an error in their order, as places.
def places (e : SyntaxError) (pattern : List Char) : List (Place × Place) :=
  let spans := match e.earlier with
    | none => [e.span]
    | some s =>
      if s.start < e.span.start ∨ (s.start = e.span.start ∧ s.stop ≤ e.span.stop) then [s, e.span]
      else [e.span, s]
  spans.map fun s => (placeOf pattern s.start, placeOf pattern s.stop)

-- The lines of the pattern, each with the marks under it.
def notated (e : SyntaxError) (pattern : List Char) (width : Nat) : List String :=
  let places := e.places pattern
  ((linesOf pattern).zipIdx 1).flatMap fun (line, n) =>
    let columns := (places.filter fun p => p.1.line == n && p.2.line == n).map fun p =>
      (p.1.column, p.2.column)
    let lead := if width = 0 then "    " else padLeft width (toString n) ++ ": "
    let blank := String.ofList (List.replicate lead.length ' ')
    (lead ++ line) :: (if columns.isEmpty then [] else [blank ++ marks columns])

-- The places of spans over several lines.
def overLines (e : SyntaxError) (pattern : List Char) : List String :=
  ((e.places pattern).filter fun p => p.1.line != p.2.line).map fun p =>
    "on line " ++ toString p.1.line ++ " (column " ++ toString p.1.column ++ ") through line " ++
      toString p.2.line ++ " (column " ++ toString (p.2.column - 1) ++ ")"

-- The message of an error in a pattern.
def message (e : SyntaxError) (pattern : String) : String :=
  let cs := pattern.toList
  let header := "regex parse error:"
  let error := "error: " ++ e.kind.description
  let lines :=
    if '\n' ∈ cs then
      let rule := String.ofList (List.replicate 79 '~')
      let count := (linesOf cs).length + (if cs.getLast? = some '\n' then 1 else 0)
      let width := if count ≤ 1 then 0 else (toString count).length
      [header, rule] ++ e.notated cs width ++ [rule] ++ e.overLines cs ++ [error]
    else [header] ++ e.notated cs 0 ++ [error]
  String.intercalate "\n" lines

end SyntaxError

def CompileError.message (pattern : String) : CompileError → String
  | invalid error => error.message pattern
  | tooLarge => "Compiled regex exceeds size limit of " ++ toString sizeLimit ++ " bytes."

end ChainHost.Pattern
