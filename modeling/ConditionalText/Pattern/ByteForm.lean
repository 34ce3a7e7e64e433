import ConditionalText.Unicode.RangeTable

/-!
The UTF-8 forms of runs of characters as short sequences of byte ranges, and the tree that joins
sequences which begin alike. An automaton over bytes that recognises a set of characters follows
this tree.
-/

namespace ConditionalText

structure ByteRange where
  first : Nat
  last : Nat
  deriving Repr, DecidableEq

/-- Stands for all byte strings that take one byte from each range in turn. -/
abbrev ByteForm := List ByteRange

namespace ByteForm

def anyTail (count : Nat) : ByteForm :=
  List.replicate count ⟨0x80, 0xBF⟩

/-- The forms of the numbers from `first` to `last`, where `mark` is added to the leading digit and
`tails` digits to base sixty-four follow it. -/
def between (mark : Nat) : (tails first last : Nat) → List ByteForm
  | 0, first, last => [[⟨mark + first, mark + last⟩]]
  | tails + 1, first, last =>
      let unit := 64 ^ (tails + 1)
      let under (lead first last : Nat) : List ByteForm :=
        (between 0x80 tails first last).map (⟨mark + lead, mark + lead⟩ :: ·)
      if first / unit = last / unit then under (first / unit) (first % unit) (last % unit)
      else
        let startsInside := first % unit != 0
        let endsInside := last % unit != unit - 1
        let whole : Nat × Nat :=
          (if startsInside then first / unit + 1 else first / unit,
            if endsInside then last / unit - 1 else last / unit)
        (if startsInside then under (first / unit) (first % unit) (unit - 1) else []) ++
          (if whole.1 ≤ whole.2 then [⟨mark + whole.1, mark + whole.2⟩ :: anyTail (tails + 1)]
            else []) ++
          (if endsInside then under (last / unit) 0 (last % unit) else [])

structure Width where
  first : Nat
  last : Nat
  mark : Nat
  tails : Nat

def widths : List Width := [
  ⟨0, 0x7F, 0, 0⟩,
  ⟨0x80, 0x7FF, 0xC0, 1⟩,
  ⟨0x800, 0xD7FF, 0xE0, 2⟩,
  ⟨0xE000, 0xFFFF, 0xE0, 2⟩,
  ⟨0x10000, 0x10FFFF, 0xF0, 3⟩]

def ofRange (range : Unicode.CodeRange) : List ByteForm :=
  widths.flatMap (fun width =>
    let first := max range.first width.first
    let last := min range.last width.last
    if first ≤ last then between width.mark width.tails first last else [])

def branches (forms : List ByteForm) : List (ByteRange × List ByteForm) :=
  forms.foldr
    (fun form found =>
      match form, found with
      | [], _ => found
      | range :: rest, [] => [(range, [rest])]
      | range :: rest, (next, rests) :: others =>
          if range = next then (next, (rest :: rests)) :: others else (range, [rest]) :: found)
    []

def depth : Nat := 4

/-- The inner nodes of the tree, each given by the forms that continue from it. -/
def nodes : (depth : Nat) → List ByteForm → List (List ByteForm)
  | 0, _ => []
  | depth + 1, forms =>
      match branches forms with
      | [] => []
      | found => forms :: found.flatMap (fun branch => nodes depth branch.2)

def edges : (depth : Nat) → List ByteForm → Nat
  | 0, _ => 0
  | depth + 1, forms =>
      (branches forms).foldl (fun count branch => count + 1 + edges depth branch.2) 0

end ByteForm

end ConditionalText
