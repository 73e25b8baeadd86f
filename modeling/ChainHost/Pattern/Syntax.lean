namespace ChainHost.Pattern

-- The characters of a pattern from `start` up to `stop`.
structure Span where
  start : Nat
  stop : Nat
  deriving DecidableEq, Repr, Inhabited

inductive Flag where
  | ignoreCase
  | multiLine
  | dotAll
  | swapGreed
  | unicode
  | crlf
  | verbose
  deriving DecidableEq, Repr

-- The flags that are set and those that are cleared.
structure FlagChange where
  set : List Flag
  cleared : List Flag
  deriving Repr

-- Whether a flag is set or cleared, if at all.
def FlagChange.state? (c : FlagChange) (f : Flag) : Option Bool :=
  if f ∈ c.cleared then some false
  else if f ∈ c.set then some true
  else none

-- A character that stands for itself, however it is spelled. `byte` holds for a spelling by two
-- hexadecimal digits, which can also stand for a byte.
structure Literal where
  span : Span
  char : Char
  byte : Bool
  deriving Repr

inductive Assertion where
  | lineStart
  | lineEnd
  | textStart
  | textEnd
  | wordBoundary
  | notWordBoundary
  | wordStart
  | wordEnd
  | wordStartHalf
  | wordEndHalf
  deriving DecidableEq, Repr

-- The classes that a letter after a backslash stands for.
inductive ShortClass where
  | digit
  | space
  | word
  deriving DecidableEq, Repr

-- How a set of characters is named.
inductive SetName where
  | alone (name : String)
  | withValue (name value : String)
  deriving Repr

-- What may stand between brackets.
inductive ClassSet where
  | empty (span : Span)
  | literal (literal : Literal)
  | range (span : Span) (first last : Literal)
  | posix (span : Span) (negated : Bool) (name : String)
  | named (span : Span) (negated : Bool) (name : SetName)
  | short (span : Span) (negated : Bool) (kind : ShortClass)
  | bracketed (span : Span) (negated : Bool) (set : ClassSet)
  | union (span : Span) (items : List ClassSet)
  | inter (span : Span) (left right : ClassSet)
  | diff (span : Span) (left right : ClassSet)
  | symmDiff (span : Span) (left right : ClassSet)

-- What kind of group parentheses make.
inductive GroupKind where
  | capturing
  | plain (flags : FlagChange)
  deriving Repr

inductive Ast where
  | empty (span : Span)
  | flags (span : Span) (change : FlagChange)
  | literal (literal : Literal)
  | dot (span : Span)
  | assertion (span : Span) (kind : Assertion)
  | named (span : Span) (negated : Bool) (name : SetName)
  | short (span : Span) (negated : Bool) (kind : ShortClass)
  | bracketed (span : Span) (negated : Bool) (set : ClassSet)
  | repeat (span : Span) (min : Nat) (max : Option Nat) (greedy : Bool) (body : Ast)
  | group (span : Span) (kind : GroupKind) (body : Ast)
  | alternation (span : Span) (branches : List Ast)
  | concat (span : Span) (parts : List Ast)

def ClassSet.span : ClassSet → Span
  | empty s => s
  | literal l => l.span
  | range s .. => s
  | posix s .. => s
  | named s .. => s
  | short s .. => s
  | bracketed s .. => s
  | union s _ => s
  | inter s .. => s
  | diff s .. => s
  | symmDiff s .. => s

def Ast.span : Ast → Span
  | empty s => s
  | flags s _ => s
  | literal l => l.span
  | dot s => s
  | assertion s _ => s
  | named s .. => s
  | short s .. => s
  | bracketed s .. => s
  | .repeat s .. => s
  | group s .. => s
  | alternation s _ => s
  | concat s _ => s

-- Items next to each other: one item stands for itself.
def ClassSet.ofItems (span : Span) : List ClassSet → ClassSet
  | [] => empty span
  | [item] => item
  | items => union ⟨(items.head?.map fun i => i.span.start).getD span.start,
      (items.getLast?.map fun i => i.span.stop).getD span.stop⟩ items

-- Parts after each other: one part stands for itself.
def Ast.ofParts (span : Span) : List Ast → Ast
  | [] => empty span
  | [part] => part
  | parts => concat span parts

end ChainHost.Pattern
