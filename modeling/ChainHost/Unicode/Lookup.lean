import ChainHost.Unicode.Age
import ChainHost.Unicode.Category
import ChainHost.Unicode.CharSet
import ChainHost.Unicode.Property
import ChainHost.Unicode.Script
import ChainHost.Unicode.ScriptExtension
import ChainHost.Unicode.Segment

namespace ChainHost.Unicode

-- Why a name stands for no set.
inductive LookupError where
  | unknownProperty
  | unknownValue
  deriving DecidableEq, Repr

-- The form in which names are compared. Characters that are not ASCII are dropped.
def normalName (name : String) : String :=
  let cs := name.toList
  let kept (cs : List Char) :=
    (cs.filter fun c => c.toNat < 0x80 ∧ c ≠ ' ' ∧ c ≠ '_' ∧ c ≠ '-').map Char.toLower
  match cs with
  | a :: b :: rest =>
    if a.toLower = 'i' ∧ b.toLower = 's' then
      -- "isc" is a name of its own
      if kept rest = ['c'] then "isc" else String.ofList (kept rest)
    else String.ofList (kept cs)
  | _ => String.ofList (kept cs)

-- The entry of a table.
def lookup? (table : List (String × String)) (key : String) : Option String :=
  (table.find? fun e => e.1 == key).map Prod.snd

def set? (table : List (String × String)) (key : String) : Option CharSet :=
  (lookup? table key).map CharSet.ofText

-- The code points that are no characters.
def surrogates : CharSet := .ofText "D800-DFFF"

-- The characters of no category.
def unassigned : CharSet :=
  (CharSet.ofRanges (surrogates.ranges ++
    Category.tables.flatMap fun t => (CharSet.ofText t.2).ranges)).complement

-- The characters of a category, by its full name.
def categorySet? (name : String) : Option CharSet :=
  match name with
  | "Any" => some CharSet.all
  | "Assigned" => some unassigned.complement
  | "ASCII" => some CharSet.ascii
  | "Unassigned" => some unassigned
  | _ =>
    match lookup? Category.groups name with
    | some parts =>
      some (CharSet.ofRanges ((parts.splitOn " ").flatMap fun part =>
        ((lookup? Category.names part.toLower).bind simpleSet?).elim [] CharSet.ranges))
    | none => set? Category.tables name
where
  simpleSet? : String → Option CharSet
    | "Unassigned" => some unassigned
    | "Surrogate" => some surrogates
    | name => set? Category.tables name

-- The full name of a category.
def categoryName? (name : String) : Option String :=
  match name with
  | "any" => some "Any"
  | "assigned" => some "Assigned"
  | "ascii" => some "ASCII"
  | _ => lookup? Category.names name

-- The set that a name in normal form has in a table, through the table's names.
def named (names tables : List (String × String)) (name : String) : Except LookupError CharSet :=
  match (lookup? names name).bind (set? tables) with
  | some s => .ok s
  | none => .error .unknownValue

def scriptSet? (name : String) : Option CharSet :=
  set? Script.tables name

def scriptExtensionSet? (name : String) : Option CharSet :=
  (set? ScriptExtension.tables name).orElse fun _ => scriptSet? name

-- The characters of an edition of the standard and of those before it.
def ageSet? (name : String) : Option CharSet :=
  if Age.tables.any (fun t => t.1 == name) then
    let earlier := Age.tables.takeWhile fun t => t.1 != name
    some (CharSet.ofRanges
      ((earlier.flatMap fun t => (CharSet.ofText t.2).ranges) ++
        ((set? Age.tables name).elim [] CharSet.ranges)))
  else none

-- Names that are short for a property and for a category stand for the category.
def preferCategory (name : String) : Bool :=
  name == "cf" || name == "sc" || name == "lc"

-- The set that a single name stands for.
def setOfName (text : String) : Except LookupError CharSet :=
  let name := normalName text
  match if preferCategory name then none else lookup? Property.names name with
  | some property => orElse (set? Property.tables property) .unknownProperty
  | none =>
    match categoryName? name with
    | some category => orElse (categorySet? category) .unknownValue
    | none =>
      match lookup? Script.names name with
      | some script => orElse (scriptSet? script) .unknownValue
      | none => .error .unknownProperty
where
  orElse (s : Option CharSet) (e : LookupError) : Except LookupError CharSet :=
    match s with
    | some s => .ok s
    | none => .error e

-- The characters for which the property `name` has the given value.
def setOfValue (name value : String) : Except LookupError CharSet :=
  let value := normalName value
  match lookup? Property.names (normalName name) with
  | none => .error .unknownProperty
  | some "General_Category" => orUnknown ((categoryName? value).bind categorySet?)
  | some "Script" => orUnknown ((lookup? Script.names value).bind scriptSet?)
  | some "Script_Extensions" => orUnknown ((lookup? Script.names value).bind scriptExtensionSet?)
  | some "Age" => orUnknown ((lookup? Age.names value).bind ageSet?)
  | some "Grapheme_Cluster_Break" =>
    named Segment.graphemeNames Segment.graphemeTables value
  | some "Word_Break" => named Segment.wordNames Segment.wordTables value
  | some "Sentence_Break" => named Segment.sentenceNames Segment.sentenceTables value
  | some _ => .error .unknownValue
where
  orUnknown (s : Option CharSet) : Except LookupError CharSet :=
    match s with
    | some s => .ok s
    | none => .error .unknownValue

-- The set of a property that is known to have a table.
def property (name : String) : CharSet :=
  (set? Property.tables name).getD CharSet.empty

def category (name : String) : CharSet :=
  (categorySet? name).getD CharSet.empty

end ChainHost.Unicode
