import ConditionalText.Filter
import ConditionalText.Pattern.Footprint
import ConditionalText.Proofs.BlockForm
import ConditionalText.Proofs.ByteOffsets

/-!
What the rewriting of a document writes. It goes along the listed blocks, copies what stands
between them and puts each block's replacement in its place; nothing else is written, and what has
been written is not read again.
-/

namespace ConditionalText

def Piece.render (replacement : Block → Text) : Piece → Text
  | .plain c => [c]
  | .block _ content => replacement content

namespace Document

/-- The text of the parts with every block replaced. -/
def splice (replacement : Block → Text) (parts : List Piece) : Text :=
  parts.flatMap (Piece.render replacement)

@[simp] theorem splice_nil (replacement : Block → Text) : splice replacement [] = [] := rfl

@[simp] theorem splice_cons (replacement : Block → Text) (part : Piece) (parts : List Piece) :
    splice replacement (part :: parts) = part.render replacement ++ splice replacement parts := rfl

@[simp] theorem splice_append (replacement : Block → Text) (earlier later : List Piece) :
    splice replacement (earlier ++ later) =
      splice replacement earlier ++ splice replacement later :=
  List.flatMap_append

/-- The text, which starts at the byte `position` of a document, becomes `output` when each of the
blocks gives way to its replacement and all that stands between them is copied. -/
inductive Spliced (replacement : Block → Text) : Nat → List PlacedBlock → Text → Text → Prop where
  | rest (position : Nat) (text : Text) : Spliced replacement position [] text text
  | block {position : Nat} {block : PlacedBlock} {others : List PlacedBlock}
      {gap source text output : Text} (start : block.start = position + gap.utf8Length)
      (stop : block.stop = block.start + source.utf8Length)
      (later : Spliced replacement block.stop others text output) :
      Spliced replacement position (block :: others) (gap ++ (source ++ text))
        (gap ++ (replacement block.toBlock ++ output))

/-- The characters of `gap` have been passed since the last block. -/
theorem spliced_place (replacement : Block → Text) (position : Nat) (gap : Text)
    (parts : List Piece) :
    Spliced replacement position (place (position + gap.utf8Length) parts) (gap ++ sources parts)
      (gap ++ splice replacement parts) := by
  induction parts generalizing position gap with
  | nil => exact .rest position _
  | cons part parts ih =>
      cases part with
      | plain c =>
          have later := ih position (gap ++ [c])
          simpa [place, Piece.source, Piece.render, Nat.add_assoc] using later
      | block source content =>
          have later := ih (position + gap.utf8Length + source.utf8Length) []
          exact .block rfl rfl later

theorem spliced_scan (replacement : Block → Text) (text : Text) :
    Spliced replacement 0 (scan text) text (splice replacement (pieces text)) := by
  have spliced := spliced_place replacement 0 [] (pieces text)
  simpa [scan] using spliced

theorem splice_pieces_of_scan_eq_nil {replacement : Block → Text} {text : Text}
    (empty : scan text = []) : splice replacement (pieces text) = text := by
  have spliced := spliced_scan replacement text
  rw [empty] at spliced
  generalize splice replacement (pieces text) = output at spliced ⊢
  cases spliced
  rfl

end Document

namespace FilterSettings

/-- The size of the document does not keep it from being scanned. -/
def Accepts (settings : FilterSettings) (text : Text) : Prop :=
  ∀ limit, settings.maxInputBytes = some limit → Marker.mayContain text = true →
    text.utf8Length ≤ limit.toNat

theorem accepts_of_maxInputBytes_eq_none {settings : FilterSettings}
    (unlimited : settings.maxInputBytes = none) (text : Text) : settings.Accepts text := by
  intro limit limited
  rw [unlimited] at limited
  cases limited

theorem exceededLimit?_eq_none_of_accepts {settings : FilterSettings} {text : Text}
    (accepted : settings.Accepts text) (present : Marker.mayContain text = true) :
    settings.exceededLimit? text = none := by
  rw [exceededLimit?, Option.bind_eq_none_iff]
  intro limit limited
  rw [if_neg (Nat.not_lt.mpr (accepted limit limited present))]

section

variable [PatternEngine] (settings : FilterSettings) (context : RequestContext)

theorem replaceBlocks_of_spliced {position : Nat} {blocks : List PlacedBlock}
    {read text output : Text}
    (spliced : Document.Spliced (Block.replacement context settings.patternSizeLimit) position
      blocks text output) (offset : read.utf8Length = position) (progress : Progress)
    (reached : progress.position = position) :
    let final :=
      (blocks.foldlM (settings.replaceBlock context (read ++ text)) progress).value
    final.output ++ (read ++ text).dropBytes final.position = progress.output ++ output ∧
      final.replaced = progress.replaced + blocks.length := by
  induction spliced generalizing read progress with
  | rest position text =>
      subst offset
      simp [reached, Text.dropBytes_append]
  | @block position block others gap source text output start stop later ih =>
      have whole : read ++ (gap ++ (source ++ text)) = (read ++ gap ++ source) ++ text := by simp
      have copied : (read ++ (gap ++ (source ++ text))).slice progress.position block.start =
          gap := by
        rw [reached, start, ← offset, Text.slice_append]
      have offset' : (read ++ gap ++ source).utf8Length = block.stop := by
        rw [stop, start, ← offset, Text.utf8Length_append, Text.utf8Length_append]
      have replaced := ih offset' (settings.replaceBlock context (read ++ (gap ++ (source ++ text)))
        progress block).value rfl
      rw [← whole] at replaced
      obtain ⟨written, counted⟩ := replaced
      simp only [List.foldlM_cons, Reported.bind_value]
      constructor
      · rw [written]
        simp [replaceBlock, copied, Block.evaluate]
      · rw [counted]
        simp only [replaceBlock, Reported.bind_value, Reported.pure_value, List.length_cons]
        omega

theorem replaceBlocks_scan (text : Text) :
    let final := ((Document.scan text).foldlM (settings.replaceBlock context text) {}).value
    final.output ++ text.dropBytes final.position =
        Document.splice (Block.replacement context settings.patternSizeLimit)
          (Document.pieces text) ∧
      final.replaced = (Document.scan text).length := by
  obtain ⟨written, counted⟩ := settings.replaceBlocks_of_spliced context
    (Document.spliced_scan (Block.replacement context settings.patternSizeLimit) text)
    (rfl : Text.utf8Length [] = 0) {} rfl
  simp only [List.nil_append, Nat.zero_add] at written counted
  exact ⟨written, counted⟩

/-- Rewriting replaces every block of the document, and leaves alone a document without blocks. -/
theorem rewrite_value (text : Text) :
    (settings.rewrite context text).value =
      if Document.scan text = [] then .kept
      else .rewritten (Document.splice (Block.replacement context settings.patternSizeLimit)
        (Document.pieces text)) := by
  obtain ⟨written, counted⟩ := settings.replaceBlocks_scan context text
  rw [rewrite]
  simp only [Reported.bind_value]
  rw [counted]
  by_cases empty : Document.scan text = []
  · simp [empty]
  · have some_replaced : (Document.scan text).length ≠ 0 := by simpa using empty
    rw [if_neg some_replaced, if_neg empty]
    simp [written]

theorem rewrite_text (text : Text) :
    (settings.rewrite context text).value.text text =
      Document.splice (Block.replacement context settings.patternSizeLimit)
        (Document.pieces text) := by
  rw [rewrite_value]
  split
  · rename_i empty
    rw [Document.splice_pieces_of_scan_eq_nil empty]
    rfl
  · rfl

/-- A document that is not too long is rewritten; where the quick test finds nothing, rewriting
would change nothing. -/
theorem tryFilter_value_of_accepts {settings : FilterSettings} {text : Text}
    (accepted : settings.Accepts text) :
    (settings.tryFilter context text).value = .ok (settings.rewrite context text).value := by
  rw [tryFilter]
  cases present : Marker.mayContain text with
  | false =>
      have empty : Document.scan text = [] := Document.place_pieces_of_not_mayContain present 0
      rw [rewrite_value, if_pos empty]
      rfl
  | true =>
      have within := exceededLimit?_eq_none_of_accepts accepted present
      simp [within]

theorem tryFilter_of_accepts {settings : FilterSettings} {text : Text}
    (accepted : settings.Accepts text) :
    ∃ outcome, (settings.tryFilter context text).value = .ok outcome ∧
      outcome.text text =
        Document.splice (Block.replacement context settings.patternSizeLimit)
          (Document.pieces text) :=
  ⟨(settings.rewrite context text).value, tryFilter_value_of_accepts context accepted,
    settings.rewrite_text context text⟩

theorem filter_text_of_accepts {settings : FilterSettings} {text : Text}
    (accepted : settings.Accepts text) :
    (settings.filter context text).value.text text =
      Document.splice (Block.replacement context settings.patternSizeLimit)
        (Document.pieces text) := by
  obtain ⟨outcome, tried, written⟩ := tryFilter_of_accepts context accepted
  rw [filter, tried]
  exact written

theorem filter_text_of_cut {settings : FilterSettings}
    {document source : Text} {earlier later : List Piece} {block : Block}
    (accepted : settings.Accepts document)
    (cut : Document.pieces document = earlier ++ .block source block :: later) :
    (settings.filter context document).value.text document =
      Document.splice (Block.replacement context settings.patternSizeLimit) earlier ++
        (block.replacement context settings.patternSizeLimit ++
          Document.splice (Block.replacement context settings.patternSizeLimit) later) := by
  rw [filter_text_of_accepts context accepted, cut, Document.splice_append, Document.splice_cons]
  rfl

end

end FilterSettings

theorem filter_value [PatternEngine] (context : RequestContext) (text : Text) :
    (filter context text).value =
      Document.splice (Block.replacement context defaultPatternSizeLimit)
        (Document.pieces text) :=
  FilterSettings.filter_text_of_accepts context
    (FilterSettings.accepts_of_maxInputBytes_eq_none rfl text)

namespace Block

variable [PatternEngine]

/-- The condition admits the request, and the pattern, if there is one, can be used within the
limit and matches somewhere in the user agent. -/
def ShownTo (block : Block) (context : RequestContext) (sizeLimit : UInt64) : Prop :=
  (block.condition = .any ∨ (block.condition = .web ∧ context.isService = false) ∨
    (block.condition = .service ∧ context.isService = true)) ∧
  ∀ pattern, block.agentPattern = some pattern →
    ∃ compiled, Pattern.compile pattern sizeLimit = .ok compiled ∧
      compiled.occursIn context.userAgent = true

theorem agentMatches_eq_ok_true_iff {pattern userAgent : Text} {sizeLimit : UInt64} :
    agentMatches pattern userAgent sizeLimit = .ok true ↔
      ∃ compiled, Pattern.compile pattern sizeLimit = .ok compiled ∧
        compiled.occursIn userAgent = true := by
  rw [agentMatches]
  cases Pattern.compile pattern sizeLimit <;> simp

theorem verdict_eq_shown_iff {block : Block} (filled : block.agentPattern ≠ some [])
    (context : RequestContext) (sizeLimit : UInt64) :
    block.verdict context sizeLimit = .shown ↔ block.ShownTo context sizeLimit := by
  rw [ShownTo, ← Condition.admits_eq_true_iff, verdict]
  cases admitted : block.condition.admits context.isService with
  | false => simp
  | true =>
      match written : block.agentPattern with
      | none => simp
      | some [] => exact absurd written filled
      | some (c :: pattern) =>
          simp only [Bool.not_true, Bool.false_eq_true, if_false, true_and, Option.some.injEq,
            forall_eq', ← agentMatches_eq_ok_true_iff]
          split <;> simp_all

theorem verdict_eq_shown_iff_agentMatches {block : Block} {context : RequestContext}
    {sizeLimit : UInt64} {text : Text} (filled : text ≠ [])
    (attributed : block.agentPattern = some text)
    (admitted : block.condition.admits context.isService = true) :
    block.verdict context sizeLimit = .shown ↔
      agentMatches text context.userAgent sizeLimit = .ok true := by
  have filled' : block.agentPattern ≠ some [] := by
    rw [attributed]
    simpa using filled
  rw [verdict_eq_shown_iff filled', ShownTo, ← Condition.admits_eq_true_iff, admitted,
    agentMatches_eq_ok_true_iff]
  simp [attributed]

theorem replacement_of_shown {block : Block} {context : RequestContext} {sizeLimit : UInt64}
    (shown : block.verdict context sizeLimit = .shown) :
    block.replacement context sizeLimit = block.body := by
  rw [replacement, shown]
  rfl

theorem replacement_of_not_shown {block : Block} {context : RequestContext} {sizeLimit : UInt64}
    (hidden : block.verdict context sizeLimit ≠ .shown) :
    block.replacement context sizeLimit = [] := by
  rw [replacement]
  cases verdict : block.verdict context sizeLimit with
  | shown => exact absurd verdict hidden
  | conditionRefused | agentMismatch | agentPatternInvalid => rfl

end Block

namespace FilterSettings

/-- Filtering a document that is not too long gives the document with each of its blocks replaced
by what the block's verdict leaves: the body of a block that is shown, and nothing of any other. -/
theorem tryFilter_spliced [PatternEngine] (settings : FilterSettings) (context : RequestContext)
    (text : Text) (accepted : settings.Accepts text) :
    ∃ outcome, (settings.tryFilter context text).value = .ok outcome ∧
      Document.Spliced (fun block => (block.evaluate context settings.patternSizeLimit).value) 0
        (Document.blocks text) text (outcome.text text) ∧
      ∀ block ∈ Document.blocks text,
        (block.ShownTo context settings.patternSizeLimit →
          (block.evaluate context settings.patternSizeLimit).value = block.body) ∧
        (¬ block.ShownTo context settings.patternSizeLimit →
          (block.evaluate context settings.patternSizeLimit).value = []) := by
  obtain ⟨outcome, tried, written⟩ := tryFilter_of_accepts context accepted
  refine ⟨outcome, tried, ?_, fun block member => ?_⟩
  · rw [written, Document.blocks_eq_scan]
    exact Document.spliced_scan (Block.replacement context settings.patternSizeLimit) text
  · obtain ⟨_, _, _, _, form, _⟩ := Document.exists_part_of_mem_blocks member
    have shown_iff := Block.verdict_eq_shown_iff form.agentPattern_ne_empty context
      settings.patternSizeLimit
    exact ⟨fun shown => Block.replacement_of_shown (shown_iff.mpr shown),
      fun hidden => Block.replacement_of_not_shown (fun shown => hidden (shown_iff.mp shown))⟩

/-- The document is exactly as long in bytes as the limit allows. -/
theorem tryFilter_spliced_at_limit :
    let _engine : PatternEngine := .estimating (fun _ => "regex parse error".toList)
    FilterSettings.Accepts { maxInputBytes := some 17 } "\u00e4\x7bfws ws\x7dB\x7bfws\x7dc".toList ∧
      ∃ outcome,
        (FilterSettings.tryFilter { maxInputBytes := some 17 } (.web [])
          "\u00e4\x7bfws ws\x7dB\x7bfws\x7dc".toList).value = .ok outcome ∧
        Document.Spliced
          (fun block => (block.evaluate (.web []) defaultPatternSizeLimit).value) 0
          (Document.blocks "\u00e4\x7bfws ws\x7dB\x7bfws\x7dc".toList)
          "\u00e4\x7bfws ws\x7dB\x7bfws\x7dc".toList
          (outcome.text "\u00e4\x7bfws ws\x7dB\x7bfws\x7dc".toList) ∧
        ∀ block ∈ Document.blocks "\u00e4\x7bfws ws\x7dB\x7bfws\x7dc".toList,
          (block.ShownTo (.web []) defaultPatternSizeLimit →
            (block.evaluate (.web []) defaultPatternSizeLimit).value = block.body) ∧
          (¬ block.ShownTo (.web []) defaultPatternSizeLimit →
            (block.evaluate (.web []) defaultPatternSizeLimit).value = []) := by
  intro _engine
  have accepted : FilterSettings.Accepts { maxInputBytes := some 17 }
      "\u00e4\x7bfws ws\x7dB\x7bfws\x7dc".toList := by
    intro limit limited _
    cases limited
    decide
  exact ⟨accepted, tryFilter_spliced _ _ _ accepted⟩

end FilterSettings

end ConditionalText
