namespace ChainHost.Unicode

-- The greatest code point.
def lastCodePoint : Nat := 0x10FFFF

-- A set of characters, as ranges with both ends included. They ascend and neither touch nor overlap, and
-- may go over the surrogates, which no text contains.
structure CharSet where
  ranges : List (Nat × Nat)
  deriving DecidableEq, Repr, Inhabited

namespace CharSet

-- Joins ranges that touch or overlap, in a list that is sorted by the lower ends.
def join : List (Nat × Nat) → List (Nat × Nat)
  | [] => []
  | [r] => [r]
  | (a, b) :: (c, d) :: rest =>
    if c ≤ b + 1 then join ((a, max b d) :: rest) else (a, b) :: join ((c, d) :: rest)
termination_by ranges => ranges.length

-- The set of some ranges.
def ofRanges (ranges : List (Nat × Nat)) : CharSet :=
  ⟨join ((ranges.filter fun r => r.1 ≤ r.2).mergeSort fun r s => r.1 ≤ s.1)⟩

def empty : CharSet := ⟨[]⟩

def all : CharSet := ⟨[(0, lastCodePoint)]⟩

def ascii : CharSet := ⟨[(0, 0x7F)]⟩

def range (a b : Char) : CharSet := ofRanges [(a.toNat, b.toNat)]

def singleton (c : Char) : CharSet := range c c

-- The set of the characters of a text.
def ofString (text : String) : CharSet :=
  ofRanges (text.toList.map fun c => (c.toNat, c.toNat))

def containsCode (s : CharSet) (n : Nat) : Bool :=
  s.ranges.any fun r => r.1 ≤ n && n ≤ r.2

def contains (s : CharSet) (c : Char) : Bool :=
  s.containsCode c.toNat

def isEmpty (s : CharSet) : Bool :=
  s.ranges.isEmpty

def union (s t : CharSet) : CharSet :=
  ofRanges (s.ranges ++ t.ranges)

-- The code point after and before another one, where there is no character with a surrogate.
def nextCode (n : Nat) : Nat :=
  if n = 0xD7FF then 0xE000 else n + 1

def prevCode (n : Nat) : Nat :=
  if n = 0xE000 then 0xD7FF else n - 1

-- The range with two ends, whichever is the lower one.
def between (a b : Nat) : Nat × Nat :=
  (min a b, max a b)

-- The ranges between a range that ends at `last` and those after it. Two ranges with only
-- surrogates between them have their two inner ends for it.
def gaps (last : Nat) : List (Nat × Nat) → List (Nat × Nat)
  | [] => if last < lastCodePoint then [(nextCode last, lastCodePoint)] else []
  | (a, b) :: rest => between (nextCode last) (prevCode a) :: gaps b rest

def complement (s : CharSet) : CharSet :=
  match s.ranges with
  | [] => all
  | (a, b) :: rest => ⟨(if a = 0 then [] else [(0, prevCode a)]) ++ gaps b rest⟩

-- The characters of both sets.
def inter (s t : CharSet) : CharSet :=
  ⟨common s.ranges t.ranges⟩
where
  common : List (Nat × Nat) → List (Nat × Nat) → List (Nat × Nat)
    | [], _ => []
    | _, [] => []
    | (a, b) :: s, (c, d) :: t =>
      let rest := if b < d then common s ((c, d) :: t) else common ((a, b) :: s) t
      if max a c ≤ min b d then (max a c, min b d) :: rest else rest
  termination_by s t => s.length + t.length

-- What is left of a range without some ascending ranges.
def leave : Nat × Nat → List (Nat × Nat) → List (Nat × Nat)
  | r, [] => [r]
  | (a, b), (c, d) :: rest =>
    if d < a then leave (a, b) rest
    else if b < c then [(a, b)]
    else
      (if a < c then [(a, prevCode c)] else []) ++
        (if d < b then leave (nextCode d, b) rest else [])

-- The characters of the first set that are not in the second.
def diff (s t : CharSet) : CharSet :=
  ⟨s.ranges.flatMap fun r => leave r t.ranges⟩

-- The characters of exactly one of two sets.
def symmDiff (s t : CharSet) : CharSet :=
  (s.union t).diff (s.inter t)

-- Whether every character of the set is an ASCII character.
def isAscii (s : CharSet) : Bool :=
  s.ranges.all fun r => r.2 ≤ 0x7F

-- The value of a hexadecimal digit.
def hexValue? (c : Char) : Option Nat :=
  if c.isDigit then some (c.toNat - '0'.toNat)
  else if 'a' ≤ c ∧ c ≤ 'f' then some (c.toNat - 'a'.toNat + 10)
  else if 'A' ≤ c ∧ c ≤ 'F' then some (c.toNat - 'A'.toNat + 10)
  else none

-- The numbers of a hexadecimal text, each with the character that stands after it. What is no
-- digit separates them.
def readNumbers (text : String) : List (Nat × Char) :=
  let (done, last) := text.foldl step ([], none)
  ((last.map fun n => (n, ' ')).toList ++ done).reverse
where
  step : List (Nat × Char) × Option Nat → Char → List (Nat × Char) × Option Nat
    | (done, n), c =>
      match hexValue? c, n with
      | some d, some n => (done, some (n * 16 + d))
      | some d, none => (done, some d)
      | none, some n => ((n, c) :: done, none)
      | none, none => (done, none)

-- Reads ranges such as `41-5A 5F`, which have to ascend.
def ofText (text : String) : CharSet :=
  ⟨pair (readNumbers text)⟩
where
  pair : List (Nat × Char) → List (Nat × Nat)
    | [] => []
    | [(n, _)] => [(n, n)]
    | (n, c) :: (m, d) :: rest =>
      if c = '-' then (n, m) :: pair rest else (n, n) :: pair ((m, d) :: rest)
  termination_by numbers => numbers.length

end CharSet
end ChainHost.Unicode
