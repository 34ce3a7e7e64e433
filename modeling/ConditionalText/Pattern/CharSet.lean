import ConditionalText.Unicode.Property
import ConditionalText.Unicode.CaseFolding

/-!
Sets of characters as patterns write them: ranges and tables joined by set operations, complements,
and closures under a notion of case. Only membership matters, so nothing is brought to a normal form.
-/

namespace ConditionalText

def foldingOrbit (c : Char) : List Char :=
  let folded := Unicode.caseFolding.apply c
  folded :: Unicode.caseFolding.preimages folded

def asciiOrbit (c : Char) : List Char :=
  [c, c.toLower, c.toUpper]

inductive CharSet where
  | none
  | range (first last : Char)
  | table (ranges : Unicode.RangeTable)
  | union (left right : CharSet)
  | inter (left right : CharSet)
  | diff (left right : CharSet)
  | symmDiff (left right : CharSet)
  | complement (set : CharSet)
  | folded (set : CharSet)
  | foldedAscii (set : CharSet)
  deriving Repr

namespace CharSet

def contains : CharSet → Char → Bool
  | .none, _ => false
  | .range first last, c => decide (first ≤ c) && decide (c ≤ last)
  | .table ranges, c => ranges.contains c
  | .union left right, c => left.contains c || right.contains c
  | .inter left right, c => left.contains c && right.contains c
  | .diff left right, c => left.contains c && !right.contains c
  | .symmDiff left right, c => left.contains c != right.contains c
  | .complement set, c => !set.contains c
  | .folded set, c => (foldingOrbit c).any set.contains
  | .foldedAscii set, c => (asciiOrbit c).any set.contains

def asciiCasePairs : List (Nat × Nat) :=
  (List.range 26).map (fun k => ('A'.toNat + k, 'a'.toNat + k))

/-- The characters of a set as runs in ascending order, none of which touch. -/
def ranges : CharSet → Unicode.RangeTable
  | .none => []
  | .range first last => if first ≤ last then [⟨first.toNat, last.toNat⟩] else []
  | .table ranges => .unite [ranges]
  | .union left right => .unite [left.ranges, right.ranges]
  | .inter left right => left.ranges.intersect right.ranges
  | .diff left right => left.ranges.intersect right.ranges.complement
  | .symmDiff left right =>
      .unite [left.ranges.intersect right.ranges.complement,
        right.ranges.intersect left.ranges.complement]
  | .complement set => set.ranges.complement
  | .folded set => set.ranges.closeUnder (Unicode.caseFolding.flatMap Unicode.CaseRun.pairs)
  | .foldedAscii set => set.ranges.closeUnder asciiCasePairs

def single (c : Char) : CharSet :=
  .range c c

def ofChars (chars : List Char) : CharSet :=
  chars.foldr (fun c set => .union (single c) set) .none

def ofRanges (ranges : List (Char × Char)) : CharSet :=
  ranges.foldr (fun pair set => .union (.range pair.1 pair.2) set) .none

def unionAll (sets : List CharSet) : CharSet :=
  sets.foldr .union .none

def complementIf (negated : Bool) (set : CharSet) : CharSet :=
  if negated then .complement set else set

/-- Whether the set, read as a set of byte values, holds only values of ASCII. -/
def isAscii (set : CharSet) : Bool :=
  (List.range 128).all (fun n => !set.contains (Char.ofNat (128 + n)))

end CharSet

end ConditionalText
