import ChainHost.Pattern.Error
import ChainHost.Text.Blank
import ChainHost.Unicode.CharSet

namespace ChainHost.Pattern

-- Where a reader of a pattern is: the characters before it, those after it, the mode, and the
-- names of groups so far.
structure Scanner where
  pos : Nat
  rest : List Char
  verbose : Bool
  names : List (String × Span)

abbrev Scan := StateT Scanner (Except SyntaxError)

namespace Scan

def fail {α : Type} (kind : ErrorKind) (span : Span) (earlier : Option Span := none) : Scan α :=
  throw ⟨kind, span, earlier⟩

def pos : Scan Nat :=
  return (← get).pos

def char? : Scan (Option Char) :=
  return (← get).rest.head?

-- The character after the next one.
def second? : Scan (Option Char) :=
  return (← get).rest.tail.head?

-- The span between two places that are the same.
def here : Scan Span := do
  let p ← pos
  return ⟨p, p⟩

-- The span of the next character.
def charSpan : Scan Span := do
  let p ← pos
  return ⟨p, p + 1⟩

def spanFrom (start : Nat) : Scan Span :=
  return ⟨start, ← pos⟩

-- Takes a number of characters.
def advance (n : Nat) : Scan Unit :=
  modify fun s => { s with pos := s.pos + min n s.rest.length, rest := s.rest.drop n }

-- Takes a character, and tells whether another one follows.
def bump : Scan Bool := do
  advance 1
  return (← char?).isSome

-- Takes a text if it is what comes next.
def bumpIf (text : String) : Scan Bool := do
  if text.toList.isPrefixOf (← get).rest then
    advance text.length
    return true
  else return false

-- The number of characters that blanks and comments take.
def skipLength (inComment : Bool) : List Char → Nat
  | [] => 0
  | c :: cs =>
    if inComment then skipLength (c != '\n') cs + 1
    else if Text.isBlank c then skipLength false cs + 1
    else if c = '#' then skipLength true cs + 1
    else 0

-- Skips blanks and comments in verbose mode.
def skip : Scan Unit := do
  let s ← get
  if s.verbose then advance (skipLength false s.rest)

-- Takes a character and what may be skipped after it, and tells whether more follows.
def bumpAndSkip : Scan Bool := do
  if ← bump then
    skip
    return (← char?).isSome
  else return false

-- The character after the next one and after blanks; of a comment in between only its mark is
-- passed over.
def secondAfterSkip? : Scan (Option Char) := do
  let s ← get
  let after := s.rest.tail
  if s.verbose then
    let cs := after.dropWhile Text.isBlank
    let cs := if cs.head? = some '#' then cs.tail.dropWhile Text.isBlank else cs
    return cs.head?
  else return after.head?

-- Takes characters while they are of a kind, with what may be skipped between them.
def takeWhile (p : Char → Bool) : Scan (List Char) := do
  go ((← get).rest.length)
where
  go : Nat → Scan (List Char)
    | 0 => return []
    | fuel + 1 => do
      match ← char? with
      | some c =>
        if p c then
          let _ ← bumpAndSkip
          return c :: (← go fuel)
        else return []
      | none => return []

end Scan
end ChainHost.Pattern
