import ConditionalText.Pattern.Agent
import ConditionalText.Pattern.ByteForm

/-!
An estimate of the memory that a pattern takes once it is compiled, for running the library without
the engine that it was written for. A pattern is taken to become two automata over bytes, one that
reads a text forward and one that reads it backward, each of which must fit the limit, with counted
repetitions written out. Words and choices of words are taken to need no automaton. The engine's own
count is another one: it can refuse what is accepted here, such as a very long word, and the other
way round.
-/

namespace ConditionalText

inductive ReadingWay where
  | forward
  | backward
  deriving Repr, DecidableEq

def stateBytes : Nat := 32

def moveBytes : Nat := 8

def choiceBytes : Nat := 4

def totalBytes (sizes : List Nat) : Nat :=
  sizes.foldr (· + ·) 0

namespace CharSet

def only? (set : CharSet) : Option Char :=
  match set.ranges with
  | [run] => if run.first = run.last then some (Char.ofNat run.first) else Option.none
  | _ => Option.none

/-- The bytes for reading one character of a set. One byte is enough to read ASCII. Read forward,
ways that end alike share their states; read backward, ways that begin alike in the text do. -/
def footprint (way : ReadingWay) (set : CharSet) : Nat :=
  match set.only? with
  | some c => stateBytes * c.utf8Size
  | Option.none =>
      let runs := set.ranges
      if runs.all (fun run => run.last < 128) then 2 * stateBytes + moveBytes * runs.length
      else
        let forms := runs.flatMap ByteForm.ofRange
        match way with
        | .forward =>
            let nodes := (ByteForm.nodes ByteForm.depth forms).eraseDups
            stateBytes + totalBytes (nodes.map (fun node =>
              stateBytes + moveBytes * (ByteForm.branches node).length))
        | .backward =>
            2 * stateBytes + choiceBytes * forms.length +
              stateBytes * ByteForm.edges ByteForm.depth forms

end CharSet

namespace Pattern

def charSet? : Pattern → Option CharSet
  | .set chars => some chars
  | .alternation left right =>
      match left.charSet?, right.charSet? with
      | some first, some second => some (.union first second)
      | _, _ => none
  | _ => none

def word? : Pattern → Option Text
  | .set chars => chars.only?.map ([·])
  | .concat first second => do
      let start ← first.word?
      let rest ← second.word?
      pure (start ++ rest)
  | _ => none

def words? : Pattern → Option (List Text)
  | .alternation left right => do
      let first ← left.words?
      let others ← right.words?
      pure (first ++ others)
  | pattern => pattern.word?.map ([·])

def wordsFootprint (way : ReadingWay) (words : List Text) : Nat :=
  let bytes := words.map (fun word => word.flatMap (fun c =>
    (String.utf8EncodeChar c).map UInt8.toNat))
  let read := match way with
    | .forward => bytes
    | .backward => bytes.map List.reverse
  let forms := (read.mergeSort (fun left right => !right.lex left Nat.blt)).map
    (fun word => word.map (fun byte => (⟨byte, byte⟩ : ByteRange)))
  let longest := (bytes.map List.length).foldl max 0
  stateBytes + totalBytes ((ByteForm.nodes longest forms).map (fun node =>
    let moves := (ByteForm.branches node).length
    2 * stateBytes + choiceBytes + if moves = 1 then 0 else moveBytes * moves))

def plainChoiceFootprint? (way : ReadingWay) (pattern : Pattern) : Option Nat :=
  match pattern.charSet? with
  | some chars => some (chars.footprint way)
  | none => pattern.words?.map (wordsFootprint way)

/-- The bytes for the automaton of a pattern. Where a branch of a choice is itself a choice, `inChoice`
tells that the states around the choice are there already. -/
def footprintIn (way : ReadingWay) (inChoice : Bool) : Pattern → Nat
  | .empty => stateBytes
  | .set chars => chars.footprint way
  | .assertion _ => stateBytes
  | .group inner =>
      inner.footprintIn way false + match way with
        | .forward => 2 * stateBytes
        | .backward => 0
  | .concat first second => first.footprintIn way false + second.footprintIn way false
  | .alternation left right =>
      match if inChoice then none else plainChoiceFootprint? way (.alternation left right) with
      | some bytes => bytes
      | none =>
          left.footprintIn way true + right.footprintIn way true + choiceBytes +
            if inChoice then 0 else 2 * stateBytes + choiceBytes
  | .repetition inner least extra _ =>
      let once := inner.footprintIn way false
      let choice := stateBytes + 2 * choiceBytes
      if least = 0 ∧ extra = some 0 then stateBytes
      else if inner.onlyEmpty then once + choice
      else match extra with
        | none => once * max least 1 + choice
        | some 0 => once * least
        | some more => once * least + stateBytes + (once + choice) * more

def frameBytes : Nat := 4 * stateBytes + 2 * moveBytes

def footprint (way : ReadingWay) (pattern : Pattern) : Nat :=
  frameBytes + (Pattern.group pattern).footprintIn way false

def seemsToFit (pattern : Pattern) (limit : Nat) : Bool :=
  pattern.words?.isSome ||
    (pattern.footprint .forward ≤ limit && pattern.footprint .backward ≤ limit)

end Pattern

/-- An engine that goes by the estimate; how it words that a text is no pattern is left open. -/
@[reducible] def PatternEngine.estimating (malformed : Text → Text) : PatternEngine where
  fits text limit := ((Pattern.ofText? text).map (·.seemsToFit limit.toNat)).getD false
  describe text
    | .malformed => malformed text
    | .tooLarge limit =>
        "Compiled regex exceeds size limit of ".toList ++ Text.ofNat limit ++ " bytes.".toList

theorem PatternEngine.estimating_fits {malformed : Text → Text} {text : Text} {pattern : Pattern}
    {limit : UInt64} (read : Pattern.ofText? text = some pattern) :
    (estimating malformed).fits text limit = pattern.seemsToFit limit.toNat := by
  change ((Pattern.ofText? text).map (·.seemsToFit limit.toNat)).getD false = _
  rw [read]
  rfl

end ConditionalText
