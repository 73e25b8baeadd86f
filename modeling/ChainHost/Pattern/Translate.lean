import ChainHost.Pattern.Parser
import ChainHost.Pattern.Regex

namespace ChainHost.Pattern

open Unicode (CharSet)

-- The flags that bear on meaning.
structure Flags where
  ignoreCase : Bool
  multiLine : Bool
  dotAll : Bool
  unicode : Bool
  crlf : Bool
  swapGreed : Bool

-- The flags at the start of a pattern.
def Flags.initial : Flags where
  ignoreCase := false
  multiLine := false
  dotAll := false
  unicode := true
  crlf := false
  swapGreed := false

def Flags.change (flags : Flags) (c : FlagChange) : Flags where
  ignoreCase := (c.state? .ignoreCase).getD flags.ignoreCase
  multiLine := (c.state? .multiLine).getD flags.multiLine
  dotAll := (c.state? .dotAll).getD flags.dotAll
  unicode := (c.state? .unicode).getD flags.unicode
  crlf := (c.state? .crlf).getD flags.crlf
  swapGreed := (c.state? .swapGreed).getD flags.swapGreed

abbrev Result := Except SyntaxError

def refuse {α : Type} (kind : ErrorKind) (span : Span) : Result α :=
  .error ⟨kind, span, none⟩

-- The set with the other case of its ASCII letters.
def foldAsciiCase (s : CharSet) : CharSet :=
  let lower := s.inter (.range 'a' 'z')
  let upper := s.inter (.range 'A' 'Z')
  CharSet.ofRanges (s.ranges ++ lower.ranges.map (fun r => (r.1 - 32, r.2 - 32)) ++
    upper.ranges.map (fun r => (r.1 + 32, r.2 + 32)))

-- Closes a set under case if the flags ask for it.
def Flags.fold (flags : Flags) (s : CharSet) : CharSet :=
  if !flags.ignoreCase then s
  else if flags.unicode then s.foldCase
  else foldAsciiCase s

-- Negates a set. Without Unicode the complement consists of bytes, of which some are no characters.
def Flags.negate (flags : Flags) (span : Span) (negated : Bool) (s : CharSet) : Result CharSet :=
  if !negated then .ok s
  else if flags.unicode then .ok s.complement
  else refuse .invalidUtf8 span

-- The ASCII characters of a class that is written between colons.
def posixSet (name : String) : CharSet :=
  match name with
  | "alnum" => .ofText "30-39 41-5A 61-7A"
  | "alpha" => .ofText "41-5A 61-7A"
  | "ascii" => .ascii
  | "blank" => .ofText "9 20"
  | "cntrl" => .ofText "0-1F 7F"
  | "digit" => .ofText "30-39"
  | "graph" => .ofText "21-7E"
  | "lower" => .ofText "61-7A"
  | "print" => .ofText "20-7E"
  | "punct" => .ofText "21-2F 3A-40 5B-60 7B-7E"
  | "space" => .ofText "9-D 20"
  | "upper" => .ofText "41-5A"
  | "word" => .ofText "30-39 41-5A 5F 61-7A"
  | "xdigit" => .ofText "30-39 41-46 61-66"
  | _ => .empty

-- The characters of a class that a letter after a backslash stands for.
def shortSet (unicode : Bool) : ShortClass → CharSet
  | .digit => if unicode then Unicode.digits else posixSet "digit"
  | .space => if unicode then Unicode.blanks else posixSet "space"
  | .word => if unicode then Unicode.wordCharacters else posixSet "word"

-- The characters of a named set.
def Flags.namedSet (flags : Flags) (span : Span) (negated : Bool) (name : SetName) :
    Result CharSet := do
  if !flags.unicode then refuse .unicodeNotAllowed span
  let found := match name with
    | .alone name => Unicode.setOfName name
    | .withValue name value => Unicode.setOfValue name value
  match found with
  | .ok s => flags.negate span negated (flags.fold s)
  | .error .unknownProperty => refuse .propertyNotFound span
  | .error .unknownValue => refuse .propertyValueNotFound span

-- Checks a literal outside of Unicode: a byte beyond ASCII is no character.
def Flags.checkByte (flags : Flags) (l : Literal) : Result Unit :=
  if !flags.unicode && l.byte && l.char.toNat > 0x7F then refuse .invalidUtf8 l.span else .ok ()

-- The character of a literal in a class. Outside of Unicode a class holds bytes.
def Flags.classChar (flags : Flags) (l : Literal) : Result Char := do
  flags.checkByte l
  if !flags.unicode && l.char.toNat > 0x7F then refuse .unicodeNotAllowed l.span
  return l.char

mutual

-- The characters of what stands between brackets.
def ClassSet.chars (flags : Flags) : ClassSet → Result CharSet
  | .empty _ => return .empty
  | .literal l => return .singleton (← flags.classChar l)
  | .range _ first last => return .range (← flags.classChar first) (← flags.classChar last)
  | .posix span negated name => flags.negate span negated (flags.fold (posixSet name))
  | .named span negated name => flags.namedSet span negated name
  | .short span negated kind => flags.negate span negated (shortSet flags.unicode kind)
  | .bracketed span negated set => do
    flags.negate span negated (flags.fold (← set.chars flags))
  | .union _ items => return .ofRanges (← itemRanges flags items)
  | .inter _ left right => do
    let l ← left.chars flags
    let r ← right.chars flags
    return (flags.fold l).inter (flags.fold r)
  | .diff _ left right => do
    let l ← left.chars flags
    let r ← right.chars flags
    return (flags.fold l).diff (flags.fold r)
  | .symmDiff _ left right => do
    let l ← left.chars flags
    let r ← right.chars flags
    return (flags.fold l).symmDiff (flags.fold r)

def itemRanges (flags : Flags) : List ClassSet → Result (List (Nat × Nat))
  | [] => return []
  | item :: items => do
    let set ← item.chars flags
    return set.ranges ++ (← itemRanges flags items)

end

-- The characters that a dot stands for.
def Flags.dotSet (flags : Flags) : CharSet :=
  if flags.dotAll then .all
  else if flags.crlf then (CharSet.ofString "\r\n").complement
  else (CharSet.singleton '\n').complement

def Flags.look (flags : Flags) : Assertion → Look
  | .lineStart =>
    if !flags.multiLine then .textStart else if flags.crlf then .lineStartCrlf else .lineStart
  | .lineEnd =>
    if !flags.multiLine then .textEnd else if flags.crlf then .lineEndCrlf else .lineEnd
  | .textStart => .textStart
  | .textEnd => .textEnd
  | .wordBoundary => .wordBoundary flags.unicode
  | .notWordBoundary => .notWordBoundary flags.unicode
  | .wordStart => .wordStart flags.unicode
  | .wordEnd => .wordEnd flags.unicode
  | .wordStartHalf => .wordStartHalf flags.unicode
  | .wordEndHalf => .wordEndHalf flags.unicode

-- One character of a set.
def Flags.oneOf (flags : Flags) (set : CharSet) : Meaning :=
  .take ⟨set, !flags.unicode⟩

mutual

-- The meaning of a part of a pattern, and the flags after it.
def Ast.meaning (flags : Flags) : Ast → Result (Meaning × Flags)
  | .empty _ => return (.empty, flags)
  | .flags _ change => return (.empty, flags.change change)
  | .literal l => do
    flags.checkByte l
    return (flags.oneOf (flags.fold (.singleton l.char)), flags)
  | .dot span => do
    if !flags.unicode then refuse .invalidUtf8 span
    return (flags.oneOf flags.dotSet, flags)
  | .assertion _ kind => return (.look (flags.look kind), flags)
  | .named span negated name =>
    return (flags.oneOf (← flags.namedSet span negated name), flags)
  | .short span negated kind =>
    return (flags.oneOf (← flags.negate span negated (shortSet flags.unicode kind)), flags)
  | .bracketed span negated set => do
    let s := flags.fold (← set.chars flags)
    return (flags.oneOf (← flags.negate span negated s), flags)
  | .repeat _ min max greedy body => do
    let (body, after) ← body.meaning flags
    return (.repeat min max (greedy != after.swapGreed) body, after)
  | .group _ .capturing body => do
    return (.capture (← body.meaning flags).1, flags)
  | .group _ (.plain change) body => do
    return ((← body.meaning (flags.change change)).1, flags)
  | .alternation _ branches => do
    let (branches, flags) ← meanings flags branches
    return (.alternation branches, flags)
  | .concat _ parts => do
    let (parts, flags) ← meanings flags parts
    return (.concat parts, flags)

def meanings (flags : Flags) : List Ast → Result (List Meaning × Flags)
  | [] => return ([], flags)
  | part :: parts => do
    let (part, flags) ← part.meaning flags
    let (parts, flags) ← meanings flags parts
    return (part :: parts, flags)

end

end ChainHost.Pattern
