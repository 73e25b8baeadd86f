import ChainHost.Unicode.CharSet

namespace ChainHost.Pattern

open Unicode (CharSet)

-- A condition on a place in a text. With `unicode` the characters of words are those of all
-- scripts, else those of ASCII.
inductive Look where
  | textStart
  | textEnd
  | lineStart
  | lineEnd
  | lineStartCrlf
  | lineEndCrlf
  | wordBoundary (unicode : Bool)
  | notWordBoundary (unicode : Bool)
  | wordStart (unicode : Bool)
  | wordEnd (unicode : Bool)
  | wordStartHalf (unicode : Bool)
  | wordEndHalf (unicode : Bool)
  deriving DecidableEq, Repr

-- A pattern over two kinds of leaves: what is taken from a text, and a condition on the place
-- between two characters. A repetition that is not greedy takes as little as it can.
inductive Regex (χ κ : Type) where
  | empty
  | take (what : χ)
  | look (condition : κ)
  | capture (body : Regex χ κ)
  | concat (parts : List (Regex χ κ))
  | alternation (branches : List (Regex χ κ))
  | repeat (min : Nat) (max : Option Nat) (greedy : Bool) (body : Regex χ κ)

namespace Regex

variable {χ κ χ' κ' : Type}

mutual

-- Changes the leaves.
def map (f : χ → χ') (g : κ → κ') : Regex χ κ → Regex χ' κ'
  | empty => empty
  | take what => take (f what)
  | look condition => look (g condition)
  | capture body => capture (body.map f g)
  | concat parts => concat (mapList f g parts)
  | alternation branches => alternation (mapList f g branches)
  | .repeat min max greedy body => .repeat min max greedy (body.map f g)

def mapList (f : χ → χ') (g : κ → κ') : List (Regex χ κ) → List (Regex χ' κ')
  | [] => []
  | r :: rs => r.map f g :: mapList f g rs

end
end Regex

-- A set of characters of which one is taken. `bytes` holds for a set that stands outside of
-- Unicode.
structure OneOf where
  set : CharSet
  bytes : Bool
  deriving DecidableEq, Repr

-- A pattern that takes one character at each leaf.
abbrev Meaning := Regex OneOf Look

end ChainHost.Pattern
