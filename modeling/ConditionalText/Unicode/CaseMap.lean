import ConditionalText.Unicode.RangeTable

/-!
Maps from characters to characters given as runs that move together, and the compact text in which
the case tables are written: `41-5A>61` sends `41` to `61`, `42` to `62` and so on, and
`100-12E/2>101` does the same for every second code point of the run.
-/

namespace ConditionalText.Unicode

/-- A run of code points, `step` apart, that all move by the distance from `first` to `target`. -/
structure CaseRun where
  first : Nat
  last : Nat
  step : Nat
  target : Nat
  deriving Repr, DecidableEq, Inhabited

def CaseRun.covers (run : CaseRun) (code : Nat) : Bool :=
  run.first ≤ code && code ≤ run.last && (code - run.first) % run.step == 0

def CaseRun.image? (run : CaseRun) (code : Nat) : Option Nat :=
  if run.covers code then some (run.target + (code - run.first)) else none

def CaseRun.preimage? (run : CaseRun) (image : Nat) : Option Nat :=
  if run.target ≤ image ∧ run.covers (run.first + (image - run.target)) then
    some (run.first + (image - run.target))
  else none

abbrev CaseMap := List CaseRun

/-- The image of a character; a character that no run covers is its own image. -/
def CaseMap.apply (map : CaseMap) (c : Char) : Char :=
  match map.findSome? (·.image? c.toNat) with
  | some code => Char.ofNat code
  | none => c

def CaseMap.preimages (map : CaseMap) (image : Char) : List Char :=
  (map.filterMap (·.preimage? image.toNat)).map Char.ofNat

def CaseRun.pairs (run : CaseRun) : List (Nat × Nat) :=
  (List.range ((run.last - run.first) / run.step + 1)).map
    (fun k => (run.first + run.step * k, run.target + run.step * k))

/-- A table together with all code points that share an image with one of its own. The pairs hold
each code point that moves with its image; images do not move. -/
def RangeTable.closeUnder (pairs : List (Nat × Nat)) (table : RangeTable) : RangeTable :=
  let single (code : Nat) : CodeRange := ⟨code, code⟩
  let touched := pairs.filter (fun pair => table.covers pair.1 || table.covers pair.2)
  let images := RangeTable.unite [touched.map (fun pair => single pair.2)]
  let sources := pairs.filter (fun pair => images.covers pair.2)
  .unite [table, images, sources.map (fun pair => single pair.1)]

def CaseRun.ofWord (word : List Char) : CaseRun :=
  match splitAt (· == '>') word with
  | [run, target] =>
      match splitAt (· == '/') run with
      | [range, step] =>
          ⟨(CodeRange.ofWord range).first, (CodeRange.ofWord range).last,
            hexValue step, hexValue target⟩
      | _ => ⟨(CodeRange.ofWord run).first, (CodeRange.ofWord run).last, 1, hexValue target⟩
  | _ => ⟨0, 0, 1, 0⟩

def CaseMap.ofText (text : String) : CaseMap :=
  (words text.toList).map CaseRun.ofWord

end ConditionalText.Unicode
