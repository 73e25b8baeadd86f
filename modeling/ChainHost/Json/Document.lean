import ChainHost.Json.Fault

namespace ChainHost.Json

-- Where a scalar stands, as byte offsets.
structure Span where
  start : Nat
  stop : Nat
  deriving DecidableEq, Repr

mutual

-- A value of a text. A text that is no JSON has a broken place, at which reading stops.
inductive Node where
  -- No value can be read at `start`, where `lead` stands. A reader of the value reports `strict`,
  -- and one that skims over it `skim`.
  | broken (start : Nat) (lead : Option Char) (strict skim : Fault)
  | null (span : Span)
  | bool (span : Span) (value : Bool)
  | number (span : Span) (value : Except Fault Number)
  | string (span : Span) (value : Except Fault String)
  | array (start : Nat) (items : Items)
  | object (start : Nat) (members : Members)

-- The items of an array.
inductive Items where
  -- No item follows. At `offset` stands `next`, which should be the closing bracket.
  | ended (offset : Nat) (next : Option Char)
  | item (node : Node) (rest : Items)

-- The members of an object.
inductive Members where
  -- No member follows. At `offset` stands `next`, which should be the closing brace.
  | ended (offset : Nat) (next : Option Char)
  -- What stands for a key is no string, or no colon follows it: at `offset` stands `next`.
  | bare (key : Node) (offset : Nat) (next : Option Char)
  -- A member, with the offsets of its colon and of what follows its value.
  | member (key : Node) (colon : Nat) (value : Node) (after : Nat) (rest : Members)

end

-- A text as a tree, and what follows its value.
structure Document where
  root : Node
  offset : Nat
  next : Option Char

-- The offset at which a reader reports the character `next` that it has not consumed.
def peek (offset : Nat) (next : Option Char) : Nat :=
  if next.isSome then offset + 1 else offset

namespace Node

def start : Node → Nat
  | broken start .. => start
  | null span => span.start
  | bool span _ => span.start
  | number span _ => span.start
  | string span _ => span.start
  | array start _ => start
  | object start _ => start

end Node
end ChainHost.Json
