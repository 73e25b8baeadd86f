import Std.Data.HashMap
import ChainHost.Pattern.ByteRange
import ChainHost.Pattern.Error
import ChainHost.Pattern.Plan
import ChainHost.Pattern.Trie

namespace ChainHost.Pattern

open Unicode (CharSet)

-- The bytes of a state, of one range of a state and of one choice of a state.
def stateSize : Nat := 32

def rangeSize : Nat := 8

def choiceSize : Nat := 4

-- The states of an automaton so far, and the bytes of their ranges and choices.
structure Size where
  states : Nat
  more : Nat
  deriving DecidableEq, Repr

namespace Size

def bytes (s : Size) : Nat :=
  s.states * stateSize + s.more

-- Nothing, if the automaton has become too large.
def checked (s : Size) : Option Size :=
  if s.bytes ≤ sizeLimit then some s else none

-- Adds a number of states and the bytes of their ranges and choices.
def add (s : Size) (states more : Nat) : Option Size :=
  checked ⟨s.states + states, s.more + more⟩

-- Leads on from a state, which has one choice more if it is one that chooses.
def link (s : Size) (chooses : Bool) : Option Size :=
  s.add 0 (if chooses then choiceSize else 0)

-- Does a step `n` times and leads on from each time to the next.
def times (step : Size → Option Size) (chooses : Bool) : Nat → Size → Option Size
  | 0, s => some s
  | n + 1, s =>
    match step s with
    | none => none
    | some s =>
      match if n = 0 then some s else s.link chooses with
      | none => none
      | some s => times step chooses n s

end Size

-- What stands at a leaf of a compiled pattern.
inductive Block where
  | text (bytes : List Nat)
  | ascii (ranges : Nat)
  | forward (tree : ByteTree)
  | backward (rows : List ByteRow)

-- What a leaf becomes.
def Item.block (backward : Bool) : Item → Block
  | .text chars => .text (if backward then (textBytes chars).reverse else textBytes chars)
  | .oneOf one =>
    if one.set.isAscii then .ascii one.set.ranges.length
    else
      let rows := CharSet.byteRows one.set
      if backward then .backward rows else .forward (.ofRows rows)

-- The least number of bytes that a leaf takes, if there is a match.
def Block.least : Block → Option Nat
  | text bytes => some bytes.length
  | ascii 0 => none
  | _ => some 1

-- The latest states by their places in the memory. Rows with the same ending share states forward, and
-- rows with the same beginning backward, as far as these are remembered.
abbrev Memory (κ : Type) := Std.HashMap UInt64 (κ × Nat)

-- The place of some numbers in a memory with room for `room` states.
def place (room : UInt64) (numbers : List Nat) : UInt64 :=
  numbers.foldl (fun h n => (h ^^^ n.toUInt64) * 1099511628211) 14695981039346656037 % room

-- The number of the state `key`, which is added with some more bytes if it is not remembered.
def Memory.number {κ : Type} [BEq κ] (memory : Memory κ) (s : Size) (slot : UInt64) (key : κ)
    (more : Nat) : Option (Nat × Size × Memory κ) :=
  let fresh := (s.add 1 more).map fun s' => (s.states, s', memory.insert slot (key, s.states))
  match memory[slot]? with
  | some (k, n) => if k == key then some (n, s, memory) else fresh
  | none => fresh

mutual

-- The number of the state of a tree, whose rows all lead on to the state `last`.
def ByteTree.build (last : Nat) : ByteTree → Size → Memory (List Nat) →
    Option (Nat × Size × Memory (List Nat))
  | .done, s, memory => some (last, s, memory)
  | .node edges, s, memory =>
    match buildEdges last edges s memory with
    | none => none
    | some (key, s, memory) =>
      memory.number s (place 10000 key) key (rangeSize * edges.length)

-- The ends of the edges of a tree's node, and the numbers of the states they lead to.
def buildEdges (last : Nat) : List (Nat × Nat × ByteTree) → Size → Memory (List Nat) →
    Option (List Nat × Size × Memory (List Nat))
  | [], s, memory => some ([], s, memory)
  | (low, high, tree) :: edges, s, memory =>
    match tree.build last s memory with
    | none => none
    | some (n, s, memory) =>
      match buildEdges last edges s memory with
      | none => none
      | some (key, s, memory) => some (low :: high :: n :: key, s, memory)

end

-- Adds the states of a row from the end on; each leads on to the one before it.
def buildRow (next : Nat) : ByteRow → Size → Memory (Nat × Nat × Nat) →
    Option (Size × Memory (Nat × Nat × Nat))
  | [], s, memory => some (s, memory)
  | (low, high) :: row, s, memory =>
    match memory.number s (place 1000 [next, low, high]) (next, low, high) 0 with
    | none => none
    | some (n, s, memory) => buildRow n row s memory

-- Adds the states of rows, between which the state before them chooses.
def buildRows (last : Nat) : List ByteRow → Size → Memory (Nat × Nat × Nat) → Option Size
  | [], s, _ => some s
  | row :: rows, s, memory =>
    match buildRow last row s memory with
    | none => none
    | some (s, memory) =>
      match s.link true with
      | none => none
      | some s => buildRows last rows s memory

-- Adds the states of a leaf.
def Block.build : Block → Size → Option Size
  | text bytes, s => s.add bytes.length 0
  | ascii ranges, s => s.add 2 (rangeSize * ranges)
  | forward tree, s => do
    let last := s.states
    let s ← s.add 1 0
    let (_, s, _) ← tree.build last s ∅
    return s
  | backward rows, s => do
    let last := s.states + 1
    let s ← s.add 2 0
    buildRows last rows s ∅

mutual

-- The size of a tree of texts without the state in which all of them end.
def Trie.size : Trie → Size
  | .node closed block =>
    let own := Trie.blockSize block
    let before := Trie.blocksSize closed
    ⟨before.states + own.states + 1, before.more + own.more⟩

-- The size of blocks of edges, each with the choice to end after it.
def Trie.blocksSize : List (List (Nat × Trie)) → Size
  | [] => ⟨0, 0⟩
  | block :: blocks =>
    let own := Trie.blockSize block
    let rest := Trie.blocksSize blocks
    ⟨own.states + rest.states, own.more + choiceSize + rest.more⟩

-- The size of a block of edges and of the nodes that they lead to.
def Trie.blockSize (block : List (Nat × Trie)) : Size :=
  let below := Trie.edgesSize block
  match block with
  | [] => below
  | [_] => ⟨below.states + 1, below.more + choiceSize⟩
  | edges => ⟨below.states + 1, below.more + choiceSize + rangeSize * edges.length⟩

-- The size of the nodes that edges lead to. A leaf is the end of all texts.
def Trie.edgesSize : List (Nat × Trie) → Size
  | [] => ⟨0, 0⟩
  | (_, t) :: edges =>
    let rest := Trie.edgesSize edges
    if t.isLeaf then rest
    else
      let own := Trie.size t
      ⟨own.states + rest.states, own.more + rest.more⟩

end

namespace Regex

variable {κ : Type}

mutual

-- The pattern from its end to its start.
def turned {χ : Type} : Regex χ κ → Regex χ κ
  | empty => empty
  | take what => take what
  | look condition => look condition
  | capture body => capture body.turned
  | concat parts => concat (turnedAll parts).reverse
  | alternation branches => alternation (turnedAll branches)
  | .repeat min max greedy body => .repeat min max greedy body.turned

def turnedAll {χ : Type} : List (Regex χ κ) → List (Regex χ κ)
  | [] => []
  | r :: rs => r.turned :: turnedAll rs

end

mutual

-- Whether a match starts only where the condition `k` holds, as the pattern itself tells.
def startsAt {χ : Type} [BEq κ] (k : κ) : Regex χ κ → Bool
  | empty | take _ => false
  | look condition => condition == k
  | capture body => body.startsAt k
  | concat parts => anyStartsAt k parts
  | alternation branches => !branches.isEmpty && allStartAt k branches
  | .repeat min _ _ body => min > 0 && body.startsAt k

-- Whether one of some parts in a row does so before any of them takes something.
def anyStartsAt {χ : Type} [BEq κ] (k : κ) : List (Regex χ κ) → Bool
  | [] => false
  | r :: rs => r.startsAt k || (r.takesNone && anyStartsAt k rs)

def allStartAt {χ : Type} [BEq κ] (k : κ) : List (Regex χ κ) → Bool
  | [] => true
  | r :: rs => r.startsAt k && allStartAt k rs

end

mutual

-- The least number of bytes that a match takes, if there is one at all.
def least : Regex Block κ → Option Nat
  | empty | look _ => some 0
  | take block => block.least
  | capture body => body.least
  | concat parts => leastInTurn parts
  | alternation branches => leastOf branches
  | .repeat min _ _ body => body.least.map (min * ·)

def leastInTurn : List (Regex Block κ) → Option Nat
  | [] => some 0
  | r :: rs =>
    match r.least, leastInTurn rs with
    | some m, some n => some (m + n)
    | _, _ => none

-- The least number of all branches; there is none if one of them never matches.
def leastOf : List (Regex Block κ) → Option Nat
  | [] => none
  | [r] => r.least
  | r :: rs =>
    match r.least, leastOf rs with
    | some m, some n => some (Nat.min m n)
    | _, _ => none

end

mutual

-- Whether the last state of a pattern is one that chooses. Groups have states of their own only
-- if they are kept.
def endsChoosing (groups : Bool) : Regex Block κ → Bool
  | empty | take _ | look _ | alternation _ => false
  | capture body => !groups && body.endsChoosing groups
  | concat parts => lastEndsChoosing groups parts
  | .repeat 0 none _ body => body.least.any (0 < ·)
  | .repeat _ none _ _ => true
  | .repeat min (some max) _ body => min == max && body.endsChoosing groups

def lastEndsChoosing (groups : Bool) : List (Regex Block κ) → Bool
  | [] => false
  | [r] => r.endsChoosing groups
  | _ :: rs => lastEndsChoosing groups rs

end

-- The texts of branches that are nothing else.
def texts? : List (Regex Block κ) → Option (List (List Nat))
  | [] => some []
  | take (.text bytes) :: rs => (texts? rs).map (bytes :: ·)
  | _ => none

mutual

-- Adds the states of a pattern.
def build (groups : Bool) : Regex Block κ → Size → Option Size
  | empty, s | look _, s => s.add 1 0
  | take block, s => block.build s
  | capture body, s =>
    if groups then do
      let s ← s.add 1 0
      let s ← body.build groups s
      let s ← s.add 1 0
      s.link (body.endsChoosing groups)
    else body.build groups s
  | concat parts, s => buildInTurn groups parts s
  | alternation branches, s =>
    match texts? branches with
    | some texts => do
      let tree := (Trie.ofTexts texts).size
      let s ← s.add 1 0
      s.add tree.states tree.more
    | none => buildBranches groups 0 branches s
  | .repeat min max _ body, s =>
    let step := body.build groups
    let chooses := body.endsChoosing groups
    match min, max with
    | 0, some 1 => do
      let s ← s.add 1 (2 * choiceSize)
      let s ← step s
      let s ← s.add 1 0
      s.link chooses
    | 0, none =>
      if body.least.any (0 < ·) then do
        let s ← s.add 1 choiceSize
        let s ← step s
        s.link chooses
      else do
        let s ← step s
        let s ← s.link chooses
        s.add 3 (4 * choiceSize)
    | n, none => do
      let s ← s.times step chooses n
      let s ← s.link chooses
      s.add 1 choiceSize
    | n, some m => do
      let s ← if n = 0 then s.add 1 0 else s.times step chooses n
      if n = m then return s
      let s ← s.add 1 0
      let s ← s.link (0 < n && chooses)
      s.times (fun s => do step (← s.add 1 (2 * choiceSize))) chooses (m - n) >>= (·.link chooses)

def buildInTurn (groups : Bool) : List (Regex Block κ) → Size → Option Size
  | [], s => s.add 1 0
  | [r], s => r.build groups s
  | r :: rs, s => do
    let s ← r.build groups s
    let s ← buildInTurn groups rs s
    s.link (r.endsChoosing groups)

-- Adds branches, of which `before` have been added. The states at which they start and end come
-- after the second one.
def buildBranches (groups : Bool) (before : Nat) : List (Regex Block κ) → Size → Option Size
  | [], s => some s
  | r :: rs, s => do
    let s ← r.build groups s
    let s ← s.link (r.endsChoosing groups)
    let s ← s.link true
    let s ← if before = 1 then s.add 2 0 else some s
    buildBranches groups (before + 1) rs s

end

-- The size of an automaton for a pattern, which stands between the states that start and end a
-- match. A match that may start anywhere has states of its own before it.
def automaton (groups anchored : Bool) (r : Regex Block κ) : Option Size := do
  let start : Size := ⟨0, 0⟩
  let s ← if anchored then start.add 1 0 else start.add 3 (2 * choiceSize + rangeSize)
  let s ← (capture r).build groups s
  let s ← s.add 1 0
  s.link ((capture r).endsChoosing groups)

end Regex

-- Whether the forward and the backward automaton of a pattern can be compiled. Only the forward one
-- keeps the groups.
def Plan.fits (plan : Plan) : Bool :=
  let turned := plan.turned
  ((plan.map (Item.block false) id).automaton true (plan.startsAt .textStart)).isSome &&
    ((turned.map (Item.block true) id).automaton false (turned.startsAt .textEnd)).isSome

-- Whether a pattern is too large to be compiled.
def Meaning.tooLarge (m : Meaning) : Bool :=
  !m.plan.fits

end ChainHost.Pattern
