/-!
Sets of characters given as runs of code points, and the compact text in which the tables of the
character standard are written: `41-5A AA` holds the letters from `41` to `5A` and the one at `AA`,
in hexadecimal.
-/

namespace ConditionalText.Unicode

structure CodeRange where
  first : Nat
  last : Nat
  deriving Repr, DecidableEq, Inhabited

def CodeRange.contains (range : CodeRange) (c : Char) : Bool :=
  range.first ≤ c.toNat && c.toNat ≤ range.last

abbrev RangeTable := List CodeRange

def RangeTable.contains (table : RangeTable) (c : Char) : Bool :=
  table.any (·.contains c)

/-- The runs from `current` on, in order, with those that touch or overlap joined. -/
def RangeTable.coalesce (current : CodeRange) : RangeTable → RangeTable
  | [] => [current]
  | next :: others =>
      if next.first ≤ current.last + 1 then
        coalesce ⟨current.first, max current.last next.last⟩ others
      else current :: coalesce next others

def RangeTable.unite (tables : List RangeTable) : RangeTable :=
  match tables.flatten.mergeSort (fun left right => left.first ≤ right.first) with
  | [] => []
  | first :: others => coalesce first others

def RangeTable.covers (table : RangeTable) (code : Nat) : Bool :=
  table.any (fun range => range.first ≤ code && code ≤ range.last)

/-- The code points from `start` on that are in none of the runs, which are in order. -/
def RangeTable.gapsFrom (start : Nat) : RangeTable → RangeTable
  | [] => if start ≤ 0x10FFFF then [⟨start, 0x10FFFF⟩] else []
  | next :: others =>
      if start < next.first then ⟨start, next.first - 1⟩ :: gapsFrom (next.last + 1) others
      else gapsFrom (next.last + 1) others

def RangeTable.complement (table : RangeTable) : RangeTable :=
  gapsFrom 0 table

def RangeTable.intersect (left right : RangeTable) : RangeTable :=
  (unite [left.complement, right.complement]).complement

structure NamedRanges where
  names : List String
  ranges : String

def hexDigit? (c : Char) : Option Nat :=
  if '0' ≤ c ∧ c ≤ '9' then some (c.toNat - '0'.toNat)
  else if 'a' ≤ c ∧ c ≤ 'f' then some (c.toNat - 'a'.toNat + 10)
  else if 'A' ≤ c ∧ c ≤ 'F' then some (c.toNat - 'A'.toNat + 10)
  else none

def hexValue (digits : List Char) : Nat :=
  digits.foldl (fun value c => value * 16 + (hexDigit? c).getD 0) 0

def splitAt (separates : Char → Bool) (text : List Char) : List (List Char) :=
  text.foldr
    (fun c pieces =>
      if separates c then [] :: pieces
      else match pieces with
        | [] => [[c]]
        | piece :: others => (c :: piece) :: others)
    [[]]

def words (text : List Char) : List (List Char) :=
  (splitAt (fun c => c == ' ' || c == '\n') text).filter (fun word => !word.isEmpty)

def CodeRange.ofWord (word : List Char) : CodeRange :=
  match splitAt (· == '-') word with
  | [first, last] => ⟨hexValue first, hexValue last⟩
  | _ => ⟨hexValue word, hexValue word⟩

def RangeTable.ofText (text : String) : RangeTable :=
  (words text.toList).map CodeRange.ofWord

def NamedRanges.table (named : NamedRanges) : RangeTable :=
  RangeTable.ofText named.ranges

end ConditionalText.Unicode
