import ChainHost.Pattern.Regex

namespace ChainHost.Pattern

open Unicode (CharSet)

-- What a plan takes: a text, or one character of a set.
inductive Item where
  | text (chars : List Char)
  | oneOf (one : OneOf)
  deriving DecidableEq, Repr

-- A pattern as it is compiled.
abbrev Plan := Regex Item Look

namespace Regex

variable {χ κ : Type}

mutual

-- Whether a match takes nothing, wherever there is one.
def takesNone : Regex χ κ → Bool
  | empty => true
  | take _ => false
  | look _ => true
  | capture body => body.takesNone
  | concat parts => allTakeNone parts
  | alternation branches => allTakeNone branches
  | .repeat _ max _ body => max.isSome && body.takesNone

def allTakeNone : List (Regex χ κ) → Bool
  | [] => true
  | r :: rs => r.takesNone && allTakeNone rs

end

mutual

-- The number of parts of a pattern.
def count : Regex χ κ → Nat
  | empty | take _ | look _ => 1
  | capture body => body.count + 1
  | concat parts => countAll parts + 1
  | alternation branches => countAll branches + 1
  | .repeat _ _ _ body => body.count + 1

def countAll : List (Regex χ κ) → Nat
  | [] => 0
  | r :: rs => r.count + countAll rs

end

end Regex

namespace Plan

mutual

-- Whether two plans are the same. A group is the same as no other one.
def same : Plan → Plan → Bool
  | .empty, .empty => true
  | .take a, .take b => a == b
  | .look a, .look b => a == b
  | .concat as, .concat bs => sameAll as bs
  | .alternation as, .alternation bs => sameAll as bs
  | .repeat min max greedy a, .repeat min' max' greedy' b =>
    min == min' && max == max' && greedy == greedy' && same a b
  | _, _ => false

def sameAll : List Plan → List Plan → Bool
  | [], [] => true
  | a :: as, b :: bs => same a b && sameAll as bs
  | _, _ => false

end

-- The plan that matches nowhere.
def nowhere : Plan :=
  .take (.oneOf ⟨.empty, true⟩)

-- Takes one character of a set.
def ofSet (one : OneOf) : Plan :=
  match one.set.ranges with
  | [] => nowhere
  | [(a, b)] => if a = b then .take (.text [Char.ofNat a]) else .take (.oneOf one)
  | _ => .take (.oneOf one)

-- The parts that stand in a row for one of them.
def partsOf : Plan → List Plan
  | .empty => []
  | .concat parts => parts
  | plan => [plan]

-- Joins texts that stand next to each other.
def joinTexts : List Plan → List Plan
  | [] => []
  | .take (.text cs) :: rest =>
    match joinTexts rest with
    | .take (.text ds) :: rest => .take (.text (cs ++ ds)) :: rest
    | rest => .take (.text cs) :: rest
  | plan :: rest => plan :: joinTexts rest

-- Parts in a row.
def inTurn (parts : List Plan) : Plan :=
  match joinTexts (parts.flatMap partsOf) with
  | [] => .empty
  | [plan] => plan
  | parts => .concat parts

-- The branches that stand for one of them.
def branchesOf : Plan → List Plan
  | .alternation branches => branches
  | plan => [plan]

def char? : Plan → Option Char
  | .take (.text [c]) => some c
  | _ => none

def set? : Plan → Option CharSet
  | .take (.oneOf one) => some one.set
  | _ => none

-- The set of the characters of branches that each take one.
def charsOf? (branches : List Plan) : Option CharSet :=
  match branches.mapM char?, branches.mapM set? with
  | some cs, _ => some (CharSet.ofString (String.ofList cs))
  | none, some sets => some (CharSet.ofRanges (sets.flatMap CharSet.ranges))
  | none, none => none

def inRow? : Plan → Option (List Plan)
  | .concat parts => some parts
  | _ => none

-- The parts with which two lists begin.
def commonStart : List Plan → List Plan → List Plan
  | a :: as, b :: bs => if same a b then a :: commonStart as bs else []
  | _, _ => []

-- The parts with which all branches begin, and what remains of each, if all are rows of parts and
-- begin with the same one.
def factor? (branches : List Plan) : Option (List Plan × List (List Plan)) :=
  match branches.mapM inRow? with
  | some (row :: rows) =>
    match rows.foldl commonStart row with
    | [] => none
    | start => some (start, (row :: rows).map fun parts => parts.drop start.length)
  | _ => none

-- Alternatives. There is room for as many steps as there are parts, and each step factors at least
-- one of them out.
def oneOf (branches : List Plan) : Plan :=
  go (Regex.countAll branches) branches
where
  go : Nat → List Plan → Plan
    | fuel, branches =>
      match branches.flatMap branchesOf with
      | [] => nowhere
      | [plan] => plan
      | branches =>
        match charsOf? branches, factor? branches, fuel with
        | some set, _, _ => ofSet ⟨set, false⟩
        | none, some (start, rests), fuel + 1 =>
          inTurn (start ++ [go fuel (rests.map inTurn)])
        | none, _, _ => .alternation branches

-- A repetition. Of what takes nothing one repetition is as good as many.
def repetition (min : Nat) (max : Option Nat) (greedy : Bool) (body : Plan) : Plan :=
  let (min, max) :=
    if body.takesNone then (Nat.min min 1, some ((max.map fun n => Nat.min n 1).getD 1))
    else (min, max)
  if max = some 0 then .empty
  else if min = 1 ∧ max = some 1 then body
  else .repeat min max greedy body

end Plan

mutual

-- The plan of a pattern.
def Meaning.plan : Meaning → Plan
  | .empty => .empty
  | .take one => Plan.ofSet one
  | .look condition => .look condition
  | .capture body => .capture (Meaning.plan body)
  | .concat parts => Plan.inTurn (plans parts)
  | .alternation branches => Plan.oneOf (plans branches)
  | .repeat min max greedy body => Plan.repetition min max greedy (Meaning.plan body)

def plans : List Meaning → List Plan
  | [] => []
  | m :: ms => Meaning.plan m :: plans ms

end

end ChainHost.Pattern
