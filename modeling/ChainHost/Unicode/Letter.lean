import ChainHost.Unicode.Fold
import ChainHost.Unicode.Lookup

namespace ChainHost.Unicode

def digits : CharSet := category "Decimal_Number"

def blanks : CharSet := property "White_Space"

-- The characters of words: letters, marks, digits, connectors and joiners.
def wordCharacters : CharSet :=
  (property "Alphabetic").union ((category "Mark").union (digits.union
    ((category "Connector_Punctuation").union (property "Join_Control"))))

-- The letters that edition 17 adds to the tables, which are those of edition 16.
def addedLetters : CharSet := .ofText
  "88F C5C CDC A7CE-A7CF A7D2 A7D4 A7F1 10940-10959 10EC5-10EC7 10EFA-10EFB 11B60-11B67
  11DB0-11DDB 16EA0-16EB8 16EBB-16ED3 16FF2-16FF6 187F8-187FF 18D09-18D1E 18D80-18DF2
  1E6C0-1E6DE 1E6E0-1E6F5 1E6FE-1E6FF 2B73A-2B73F 2CEA2-2CEAD 323B0-33479"

-- The numbers that edition 17 adds.
def addedNumbers : CharSet := .ofText "11DE0-11DE9 16FF4-16FF6"

-- The characters that edition 17 adds and that extend no other one.
def addedPrintable : CharSet := .ofText
  "88F C5C CDC 20C1 2B96 A7CE-A7CF A7D2 A7D4 A7F1 FBC3-FBD2 FD90-FD91 FDC8-FDCE 10940-10959
  10EC5-10EC7 10ED0-10ED8 11B61 11B65 11B67 11DB0-11DDB 11DE0-11DE9 16EA0-16EB8 16EBB-16ED3
  16FF2-16FF6 187F8-187FF 18D09-18D1E 18D80-18DF2 1CCFA-1CCFC 1CEBA-1CED0 1CEE0-1CEF0
  1E6C0-1E6DE 1E6E0-1E6E2 1E6E4-1E6E5 1E6E7-1E6ED 1E6F0-1E6F4 1E6FE-1E6FF 1F6D8 1F777-1F77A
  1F8D0-1F8D8 1FA54-1FA57 1FA8A 1FA8E 1FAC8 1FACD 1FAEA 1FAEF 1FBFA 2B73A-2B73F 2CEA2-2CEAD
  323B0-33479"

-- The letters that may stand in a name.
def letters : CharSet := (property "Alphabetic").union addedLetters

-- The numbers that may stand in a name.
def numbers : CharSet := (category "Number").union addedNumbers

-- The halfwidth sound marks extend the character before them, but are seen by themselves.
def soundMarks : CharSet := .ofText "FF9E-FF9F"

-- Letters that fill a place in a syllable and cannot be seen.
def fillers : CharSet := .ofText "115F-1160 3164 FFA0"

-- The characters that are shown as themselves: all but controls, unassigned characters,
-- characters that extend the one before them, fillers, and separators other than the space.
def printable : CharSet :=
  let extending := (property "Grapheme_Extend").diff soundMarks
  let hidden := (category "Other").union ((category "Separator").union (extending.union fillers))
  hidden.complement.union (addedPrintable.union (CharSet.singleton ' '))

-- The groups of characters that differ only in case.
def caseGroups : List (List Nat) :=
  ((Fold.table.splitOn ",").map fun group =>
    (CharSet.readNumbers group).map Prod.fst)

-- The set with all characters that differ from one of its own only in case.
def CharSet.foldCase (s : CharSet) : CharSet :=
  let added := caseGroups.filter fun group => group.any s.containsCode
  if added.isEmpty then s
  else CharSet.ofRanges (s.ranges ++ added.flatMap fun group => group.map fun n => (n, n))

end ChainHost.Unicode
