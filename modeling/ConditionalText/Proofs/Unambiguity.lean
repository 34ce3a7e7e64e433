import ConditionalText.Proofs.LeftmostReading

/-!
Opening markers have one meaning. The token may touch the attribute and the pattern may hold braces,
blanks and whole markers, and still no two markers begin at one place, nor one marker with two
readings. So no choice that a reader makes on the way decides what a block says.
-/

namespace ConditionalText

namespace Marker

/-- The ways to write an opening marker in which the value of an attribute touches the run of letters
and digits. Whether the run ends in the attribute's name is left open. -/
inductive TouchedForm (run value : Text) : Text → Prop where
  | marker {word blanks trailing : Text} (keyworded : word.lowerAscii = keyword)
      (spaced : blanks ≠ []) (blank : ∀ c ∈ blanks, isBlank c = true)
      (named : run ≠ []) (alphanumeric : ∀ c ∈ run, isAsciiAlphanumeric c = true)
      (filled : value ≠ []) (unquoted : '"' ∉ value)
      (ended : ∀ c ∈ trailing, isBlank c = true) :
      TouchedForm run value
        ('{' :: (word ++ (blanks ++ (run ++ ('=' :: '"' :: (value ++ ('"' :: (trailing ++ ['}']))))))))

theorem beforeAttributeName?_eq_some_iff_take {run token : Text} :
    beforeAttributeName? run = some token ↔
      2 < run.length ∧ Text.lowerAscii (run.drop (run.length - 2)) = attributeName ∧
        token = run.take (run.length - 2) := by
  rw [beforeAttributeName?_eq_some_iff]
  constructor
  · intro split
    obtain ⟨nonempty, name, named, rfl⟩ := split
    have two : name.length = 2 := by
      rw [← List.length_map Char.toLower]
      exact congrArg List.length named
    have positive := List.length_pos_iff.mpr nonempty
    have reached : (token ++ name).length - 2 = token.length := by
      rw [List.length_append, two, Nat.add_sub_cancel]
    rw [reached, List.drop_left, List.take_left, List.length_append]
    exact ⟨by omega, named, rfl⟩
  · intro ended
    obtain ⟨longer, named, rfl⟩ := ended
    refine ⟨?_, _, named, (List.take_append_drop _ run).symm⟩
    apply List.ne_nil_of_length_pos
    rw [List.length_take]
    omega

theorem opening?_touched {run value source : Text} (form : TouchedForm run value source)
    (rest : Text) :
    opening? (source ++ rest) =
      (beforeAttributeName? run).map (fun token => (⟨token, some value⟩, rest)) := by
  cases form with
  | @marker word blanks trailing keyworded spaced blank named alphanumeric filled unquoted ended =>
      have stops : Text.StopsBefore isAsciiAlphanumeric
          ('=' :: '"' :: (value ++ '"' :: (trailing ++ '}' :: rest))) := by
        rw [Text.stopsBefore_cons]
        decide
      have read := opening?_run keyworded spaced blank named alphanumeric stops
      rw [attributed?_value run filled unquoted ended] at read
      simpa using read

theorem openingAt_iff {before rest : Text} {opening : Opening} {stop : Nat} :
    OpeningAt (before ++ rest) opening before.utf8Length stop ↔
      ∃ after, opening? rest = some (opening, after) ∧
        stop + after.utf8Length = (before ++ rest).utf8Length := by
  constructor
  · intro opensAt
    obtain ⟨opened, opens, stands⟩ := opensAt
    obtain ⟨after, rfl⟩ := stands.split_at
    refine ⟨after, opening?_eq_some_iff.mpr ⟨opened, opens, rfl⟩, ?_⟩
    rw [stands.stop_eq, Text.utf8Length_append, Text.utf8Length_append, Nat.add_assoc]
  · intro found
    obtain ⟨after, read, reached⟩ := found
    obtain ⟨opened, opens, rfl⟩ := opening?_eq_some_iff.mp read
    rw [Text.utf8Length_append, Text.utf8Length_append] at reached
    exact ⟨opened, opens, before, after, rfl, rfl, by omega⟩

theorem OpeningAt.split {text : Text} {opening : Opening} {start stop : Nat}
    (opensAt : OpeningAt text opening start stop) :
    ∃ before rest, text = before ++ rest ∧ start = before.utf8Length := by
  obtain ⟨_, _, before, _, rfl, rfl, _⟩ := opensAt
  exact ⟨before, _, rfl, rfl⟩

theorem OpeningAt.unique {text : Text} {opening opening' : Opening} {start stop stop' : Nat}
    (first : OpeningAt text opening start stop) (second : OpeningAt text opening' start stop') :
    opening = opening' ∧ stop = stop' := by
  obtain ⟨before, rest, rfl, rfl⟩ := first.split
  obtain ⟨after, read, reached⟩ := openingAt_iff.mp first
  obtain ⟨after', read', reached'⟩ := openingAt_iff.mp second
  rw [read, Option.some.injEq, Prod.mk.injEq] at read'
  obtain ⟨same, rfl⟩ := read'
  exact ⟨same, by omega⟩

/-- A value that touches the run belongs to a marker exactly if the run is a token followed by the
attribute's name. -/
theorem openingAt_touched_iff {text source run value : Text} {start stop stop' : Nat}
    {opening : Opening} (form : TouchedForm run value source)
    (stands : Text.Stands source text start stop) :
    OpeningAt text opening start stop' ↔
      2 < run.length ∧ Text.lowerAscii (run.drop (run.length - 2)) = attributeName ∧
        opening = ⟨run.take (run.length - 2), some value⟩ ∧ stop' = stop := by
  obtain ⟨before, after, rfl, rfl, rfl⟩ := stands
  rw [openingAt_iff, opening?_touched form, Text.utf8Length_append, Text.utf8Length_append]
  simp only [Option.map_eq_some_iff, beforeAttributeName?_eq_some_iff_take, Prod.mk.injEq]
  constructor
  · intro found
    obtain ⟨rest, ⟨token, ⟨longer, named, rfl⟩, same, rfl⟩, reached⟩ := found
    exact ⟨longer, named, same.symm, by omega⟩
  · intro ended
    obtain ⟨longer, named, rfl, rfl⟩ := ended
    exact ⟨after, ⟨_, ⟨longer, named, rfl⟩, rfl, rfl⟩, by omega⟩

end Marker

namespace Document

open Marker

theorem blockAt_of_mem_blocks {text : Text} {block : PlacedBlock} (member : block ∈ blocks text) :
    BlockAt text block := by
  obtain ⟨earlier, source, later, cut, form, start, stop⟩ := exists_part_of_mem_blocks member
  refine blockAt_iff.mpr ⟨sources earlier, source, sources later, form, ?_, start, ?_⟩
  · rw [← sources_pieces text, cut, sources_append, sources_cons]
    rfl
  · rw [stop, start]

theorem BlockAt.meaning {text : Text} {block : PlacedBlock} (stands : BlockAt text block)
    {opening : Opening} {stop : Nat} (opensAt : OpeningAt text opening block.start stop) :
    block.condition = .ofToken opening.token ∧ block.agentPattern = opening.agentPattern ∧
      ∃ bodyStop, Text.Stands block.body text stop bodyStop ∧ ClosingAt text bodyStop block.stop := by
  cases stands with
  | @block opening' body start bodyStart bodyStop stop' opensAt' inner closesAt nearest =>
      obtain ⟨rfl, rfl⟩ := opensAt'.unique opensAt
      exact ⟨rfl, rfl, bodyStop, inner, closesAt⟩

/-- At an offset there is at most one opening marker, with one end, one token and one pattern or none,
and at most one block; and a block of the document says what the marker at its beginning says, in
whatever way that marker is read. Where the value of an attribute touches a run of letters and
digits, there is a marker exactly if the run is longer than the attribute's name and ends in it; the
token is then what stands before the name. -/
theorem openings_unambiguous (text : Text) (start : Nat) :
    (∀ opening opening' stop stop', OpeningAt text opening start stop →
      OpeningAt text opening' start stop' → opening = opening' ∧ stop = stop') ∧
    (∀ block block', BlockAt text block → BlockAt text block' →
      block.start = start → block'.start = start → block = block') ∧
    (∀ block ∈ blocks text, block.start = start →
      ∀ opening stop, OpeningAt text opening start stop →
        block.condition = .ofToken opening.token ∧ block.agentPattern = opening.agentPattern ∧
          ∃ bodyStop, Text.Stands block.body text stop bodyStop ∧
            ClosingAt text bodyStop block.stop) ∧
    ∀ run value source stop, TouchedForm run value source → Text.Stands source text start stop →
      ((∃ opening stop', OpeningAt text opening start stop') ↔
        2 < run.length ∧ Text.lowerAscii (run.drop (run.length - 2)) = attributeName) ∧
      ∀ opening stop', OpeningAt text opening start stop' →
        opening = ⟨run.take (run.length - 2), some value⟩ ∧ stop' = stop := by
  refine ⟨?_, ?_, ?_, ?_⟩
  · intro opening opening' stop stop' first second
    exact first.unique second
  · intro block block' first second begins begins'
    exact first.unique second (begins.trans begins'.symm)
  · intro block member begins opening stop opensAt
    subst begins
    exact (blockAt_of_mem_blocks member).meaning opensAt
  · intro run value source stop form stands
    constructor
    · constructor
      · intro found
        obtain ⟨opening, stop', opensAt⟩ := found
        obtain ⟨longer, named, _⟩ := (openingAt_touched_iff form stands).mp opensAt
        exact ⟨longer, named⟩
      · intro ended
        obtain ⟨longer, named⟩ := ended
        exact ⟨_, _, (openingAt_touched_iff form stands).mpr ⟨longer, named, rfl, rfl⟩⟩
    · intro opening stop' opensAt
      obtain ⟨_, _, same⟩ := (openingAt_touched_iff form stands).mp opensAt
      exact same

/-- The pattern is a closing brace and a quoted marker's beginning; the token stops before the
attribute's name that touches it. -/
example : opening? "\x7bfws webUA=\"\x7d\x7bfws any\"\x7dx".toList =
    some (⟨"web".toList, some "\x7d\x7bfws any".toList⟩, "x".toList) := by decide

end Document

end ConditionalText
