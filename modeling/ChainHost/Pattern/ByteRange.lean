import ChainHost.Unicode.Lookup

namespace ChainHost.Pattern

open Unicode (CharSet)

-- The bytes of a code point of a given number of bytes.
def utf8Bytes (count n : Nat) : List Nat :=
  match count with
  | 1 => [n]
  | 2 => [0xC0 + n / 64, 0x80 + n % 64]
  | 3 => [0xE0 + n / 4096, 0x80 + n / 64 % 64, 0x80 + n % 64]
  | _ => [0xF0 + n / 262144, 0x80 + n / 4096 % 64, 0x80 + n / 64 % 64, 0x80 + n % 64]

-- The greatest code point of each number of bytes.
def utf8Limits : List Nat := [0x7F, 0x7FF, 0xFFFF, 0x10FFFF]

-- The number of bytes of a code point.
def utf8Count (n : Nat) : Nat :=
  (utf8Limits.takeWhile (· < n)).length + 1

-- The bytes of a text.
def textBytes (chars : List Char) : List Nat :=
  chars.flatMap fun c => utf8Bytes (utf8Count c.toNat) c.toNat

-- Ranges of bytes, one after the other.
abbrev ByteRow := List (Nat × Nat)

-- Where a range of code points has to be cut, so that it becomes rows of bytes: at a change of the
-- number of bytes, and where its ends differ in a byte that is not followed by whole blocks.
def cut? (first last : Nat) : Option Nat :=
  match utf8Limits.find? fun limit => first ≤ limit && limit < last with
  | some limit => some limit
  | none =>
    if last ≤ 0x7F then none
    else [64, 4096, 262144].findSome? fun block =>
      if first / block = last / block then none
      else if first % block ≠ 0 then some (first / block * block + (block - 1))
      else if last % block ≠ block - 1 then some (last / block * block - 1)
      else none

-- The rows of a range of code points without surrogates, in ascending order.
def byteRows : Nat → Nat → Nat → List ByteRow
  | 0, _, _ => []
  | fuel + 1, first, last =>
    match cut? first last with
    | some middle => byteRows fuel first middle ++ byteRows fuel (middle + 1) last
    | none =>
      let count := utf8Count last
      [(utf8Bytes count first).zip (utf8Bytes count last)]

-- The rows of bytes of the characters of a set, in ascending order.
def CharSet.byteRows (s : CharSet) : List ByteRow :=
  (s.diff Unicode.surrogates).ranges.flatMap fun r => Pattern.byteRows 32 r.1 r.2

-- Rows of ranges of bytes; rows that begin with the same range go through the same edge.
inductive ByteTree where
  | done
  | node (edges : List (Nat × Nat × ByteTree))

-- The tree of rows that ascend. A row has up to four ranges.
def ByteTree.ofRows (rows : List ByteRow) : ByteTree :=
  go 5 rows
where
  go : Nat → List ByteRow → ByteTree
    | 0, _ => done
    | fuel + 1, rows =>
      if rows.all List.isEmpty then done
      else node ((rows.splitBy fun r s => r.head? == s.head?).filterMap fun group =>
        (group.head?.bind List.head?).map fun (low, high) =>
          (low, high, go fuel (group.map List.tail)))

end ChainHost.Pattern
