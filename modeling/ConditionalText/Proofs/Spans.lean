import ConditionalText.Proofs.BlockLength

/-!
The byte ranges of blocks. They lie in the document one behind the other, begin and end between
characters, and leave gaps that do so too. Rewriting cuts the gaps out of the document, and nothing
that it cuts out reaches over the end or through a character.
-/

namespace ConditionalText

namespace Document

/-- From the byte `position` on, the gaps and the blocks can be cut out of the document one after the
other. -/
inductive CutFrom (text : Text) : Nat → List PlacedBlock → Prop where
  | rest {position : Nat} (gap : text.Sliceable position text.utf8Length) :
      CutFrom text position []
  | block {position : Nat} {block : PlacedBlock} {others : List PlacedBlock}
      (gap : text.Sliceable position block.start) (within : text.Sliceable block.start block.stop)
      (later : CutFrom text block.stop others) :
      CutFrom text position (block :: others)

/-- What stands between the offsets of the blocks and at them, from the byte `position` on. -/
def segments (text : Text) (position : Nat) : List PlacedBlock → List Text
  | [] => [text.dropBytes position]
  | block :: others =>
      text.slice position block.start :: text.slice block.start block.stop ::
        segments text block.stop others

theorem Spliced.cutFrom {replacement : Block → Text} {position : Nat} {blocks : List PlacedBlock}
    {read text output : Text} (spliced : Spliced replacement position blocks text output)
    (offset : read.utf8Length = position) : CutFrom (read ++ text) position blocks := by
  induction spliced generalizing read with
  | rest position text =>
      subst offset
      have gap : Text.Stands text (read ++ text) read.utf8Length (read ++ text).utf8Length :=
        ⟨read, [], by rw [List.append_nil], rfl, by rw [Text.utf8Length_append]⟩
      exact .rest gap.sliceable
  | @block position block others gap source text output start stop later ih =>
      subst offset
      have reached : (read ++ gap).utf8Length = block.start := by
        rw [start, Text.utf8Length_append]
      have passed : (read ++ gap ++ source).utf8Length = block.stop := by
        rw [stop, ← reached, Text.utf8Length_append]
      have before : Text.Stands gap (read ++ (gap ++ (source ++ text))) read.utf8Length block.start :=
        ⟨read, source ++ text, rfl, rfl, start⟩
      have within : Text.Stands source (read ++ (gap ++ (source ++ text))) block.start block.stop :=
        ⟨read ++ gap, text, by simp, reached.symm, by rw [stop, ← reached]⟩
      have behind := ih passed
      rw [List.append_assoc, List.append_assoc] at behind
      exact .block before.sliceable within.sliceable behind

theorem cutFrom_blocks (text : Text) : CutFrom text 0 (blocks text) := by
  rw [blocks_eq_scan]
  exact (spliced_scan Block.body text).cutFrom (rfl : Text.utf8Length [] = 0)

variable {text : Text} {position : Nat} {blocks : List PlacedBlock}

theorem CutFrom.flatten_segments (cut : CutFrom text position blocks) :
    (segments text position blocks).flatten = text.dropBytes position := by
  induction cut with
  | rest gap => rw [segments, List.flatten_cons, List.flatten_nil, List.append_nil]
  | block gap within later ih =>
      rw [segments, List.flatten_cons, List.flatten_cons, ih, ← within.dropBytes_eq,
        ← gap.dropBytes_eq]

theorem CutFrom.isChain (cut : CutFrom text position blocks) :
    blocks.IsChain (fun earlier later => earlier.stop ≤ later.start) := by
  induction cut with
  | rest gap => exact List.IsChain.nil
  | block gap within later ih =>
      cases later with
      | rest => exact List.IsChain.singleton _
      | block between => exact List.isChain_cons_cons.mpr ⟨between.ordered, ih⟩

theorem CutFrom.sliceable_of_mem (cut : CutFrom text position blocks) {block : PlacedBlock}
    (member : block ∈ blocks) : text.Sliceable block.start block.stop := by
  induction cut with
  | rest gap => cases member
  | block gap within later ih =>
      cases List.mem_cons.mp member with
      | inl same =>
          rw [same]
          exact within
      | inr behind => exact ih behind

theorem CutFrom.gap_to_end (cut : CutFrom text position []) :
    text.Sliceable position text.utf8Length := by
  cases cut with
  | rest gap => exact gap

theorem CutFrom.gap_to_block {block : PlacedBlock} {others : List PlacedBlock}
    (cut : CutFrom text position (block :: others)) : text.Sliceable position block.start := by
  cases cut with
  | block gap => exact gap

theorem length_le_of_mem_blocks {block : PlacedBlock} (member : block ∈ Document.blocks text) :
    block.start + 12 ≤ block.stop := by
  obtain ⟨earlier, source, later, _, form, _, stop⟩ := exists_part_of_mem_blocks member
  have long := form.body_utf8Length_le
  omega

end Document

namespace FilterSettings

open Document

variable [PatternEngine] (settings : FilterSettings) (context : RequestContext) (text : Text)

/-- How far rewriting has come when it has replaced the given blocks. -/
def progressAfter (blocks : List PlacedBlock) : Progress :=
  (blocks.foldlM (settings.replaceBlock context text) {}).value

theorem cutFrom_replaceBlock {text : Text} {progress : Progress} {block : PlacedBlock}
    {others : List PlacedBlock} (cut : CutFrom text progress.position (block :: others)) :
    CutFrom text (settings.replaceBlock context text progress block).value.position others := by
  cases cut with
  | block gap within later => exact later

/-- What is left of the blocks can be cut out from wherever rewriting has come to. -/
theorem cutFrom_replaceBlocks {text : Text} {progress : Progress} {earlier later : List PlacedBlock}
    (cut : CutFrom text progress.position (earlier ++ later)) :
    CutFrom text (earlier.foldlM (settings.replaceBlock context text) progress).value.position
      later := by
  induction earlier generalizing progress with
  | nil => exact cut
  | cons block earlier ih =>
      rw [List.foldlM_cons, Reported.bind_value]
      exact ih (settings.cutFrom_replaceBlock context cut)

/-- Every block takes twelve bytes at least and lies within the document, between two characters at
either end; it ends before the next one begins, and the gaps and blocks together are the document.
So whatever has been replaced already, the gap before the next block can be cut out, and so can what
is left behind the last one. -/
theorem spans_safe :
    (∀ block ∈ blocks text,
      block.start + 12 ≤ block.stop ∧ text.Sliceable block.start block.stop) ∧
    (blocks text).IsChain (fun earlier later => earlier.stop ≤ later.start) ∧
    (segments text 0 (blocks text)).flatten = text ∧
    (∀ earlier block later, blocks text = earlier ++ block :: later →
      text.Sliceable (settings.progressAfter context text earlier).position block.start) ∧
    text.Sliceable (settings.progressAfter context text (blocks text)).position
      text.utf8Length := by
  have cut := cutFrom_blocks text
  refine ⟨?_, cut.isChain, ?_, ?_, ?_⟩
  · intro block member
    exact ⟨length_le_of_mem_blocks member, cut.sliceable_of_mem member⟩
  · rw [cut.flatten_segments, Text.dropBytes_zero]
  · intro earlier block later split
    rw [split] at cut
    exact (settings.cutFrom_replaceBlocks context cut).gap_to_block
  · rw [← List.append_nil (blocks text)] at cut
    exact (settings.cutFrom_replaceBlocks context cut).gap_to_end

end FilterSettings

end ConditionalText
