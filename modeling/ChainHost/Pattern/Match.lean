import ChainHost.Pattern.Regex
import ChainHost.Unicode.Letter

namespace ChainHost.Pattern

open Unicode (CharSet)

-- Places in a text, as the bits of a number.
abbrev Places := Nat

-- The places at which a predicate of the place holds, from `index` on.
def placesWhere (p : Nat → Bool) (count : Nat) : Places :=
  count.fold (fun i _ places => if p i then places ||| (1 <<< i) else places) 0

-- Whether a character belongs to a word.
def isWord (unicode : Bool) (c : Char) : Bool :=
  if unicode && c.toNat > 0x7F then Unicode.wordCharacters.contains c
  else c.isAlphanum || c == '_'

-- Whether a condition holds between two characters, of which there may be none.
def Look.holds (before after : Option Char) : Look → Bool
  | textStart => before.isNone
  | textEnd => after.isNone
  | lineStart => before.isNone || before == some '\n'
  | lineEnd => after.isNone || after == some '\n'
  | lineStartCrlf =>
    before.isNone || before == some '\n' || (before == some '\r' && after != some '\n')
  | lineEndCrlf =>
    after.isNone || after == some '\r' || (after == some '\n' && before != some '\r')
  | wordBoundary u => before.any (isWord u) != after.any (isWord u)
  | notWordBoundary u => before.any (isWord u) == after.any (isWord u)
  | wordStart u => !before.any (isWord u) && after.any (isWord u)
  | wordEnd u => before.any (isWord u) && !after.any (isWord u)
  | wordStartHalf u => !before.any (isWord u)
  | wordEndHalf u => !after.any (isWord u)

-- A pattern for one text: the leaves are the places before the characters that are taken, and
-- the places at which a condition holds.
abbrev Placed := Regex Places Places

-- The places of a text at which each leaf of a pattern matches.
def Meaning.placed (text : Array Char) (m : Meaning) : Placed :=
  m.map
    (fun one => placesWhere (fun i => text[i]?.any one.set.contains) text.size)
    (fun look => placesWhere
      (fun i => look.holds (if i = 0 then none else text[i - 1]?) text[i]?) (text.size + 1))

namespace Regex

-- Repeats a step at least as long as it adds places, up to `fuel` times.
def closure (step : Places → Places) : Nat → Places → Places → Places
  | 0, seen, _ => seen
  | fuel + 1, seen, fresh =>
    let next := step fresh
    let more := next ^^^ (next &&& seen)
    if more = 0 then seen else closure step fuel (seen ||| more) more

-- Applies a step `n` times, or until it changes nothing.
def times (step : Places → Places) : Nat → Places → Places
  | 0, places => places
  | n + 1, places =>
    let next := step places
    if next = places then places else times step n next

-- Applies a step up to `n` times and gathers the places after each number of times.
def upTo (step : Places → Places) : Nat → Places → Places → Places
  | 0, seen, _ => seen
  | n + 1, seen, fresh =>
    let next := step fresh
    if next = 0 ∨ next = fresh then seen ||| next else upTo step n (seen ||| next) next

mutual

-- The places at which a match ends that starts at one of the given places of a text of `size`
-- characters. All of them are followed at once, and none is visited twice in one repetition.
def ends (size : Nat) : Placed → Places → Places
  | empty, places => places
  | take before, places => (places &&& before) <<< 1
  | look holds, places => places &&& holds
  | capture body, places => body.ends size places
  | concat parts, places => endsInTurn size parts places
  | alternation branches, places => endsAny size branches places
  | .repeat min max _ body, places =>
    let start := times (body.ends size) min places
    match max with
    | none => closure (body.ends size) (size + 1) start start
    | some n => upTo (body.ends size) (n - min) start start

def endsInTurn (size : Nat) : List Placed → Places → Places
  | [], places => places
  | r :: rs, places => endsInTurn size rs (r.ends size places)

def endsAny (size : Nat) : List Placed → Places → Places
  | [], _ => 0
  | r :: rs, places => r.ends size places ||| endsAny size rs places

end

end Regex

-- Whether a pattern matches somewhere in a text.
def Meaning.matches (m : Meaning) (text : String) : Bool :=
  let chars := text.toList.toArray
  let everywhere := (1 <<< (chars.size + 1)) - 1
  (m.placed chars).ends chars.size everywhere != 0

end ChainHost.Pattern
