import ConditionalText.Proofs.Rewriting

/-!
Filtering goes along a document block by block. Plain text and a block behind it contribute what
they would contribute anywhere, whatever the block says and whatever comes after it: no marker
begins in plain text and ends in the block, and no body reaches past its own closing marker.
-/

namespace ConditionalText

namespace Document

/-- Plain text that ends before a brace holds no beginning of a block. -/
theorem not_startsBlock_plain {c : Char} {plain rest : Text}
    (markerless : Marker.mayContain (c :: plain) = false) :
    ¬ StartsBlock (c :: (plain ++ '{' :: rest)) := by
  rintro ⟨opening, opened, later, opens, _, split⟩
  obtain ⟨word, more, folded, rfl⟩ := opens.exists_prefix
  have absent : '{' ∉ word :=
    Text.mark_notMem (Marker.alphanumeric_of_keyword folded) (by decide)
  have same : '{' :: word ++ (more ++ later) = (c :: plain) ++ '{' :: rest := by
    simpa using split.symm
  obtain ⟨gap, within, _⟩ := Marker.within_of_mark_notMem absent (by simp) same
  have present : Marker.mayContain ('{' :: word ++ gap) = true :=
    Marker.mayContain_append [] folded gap
  rw [within, present] at markerless
  cases markerless

theorem pieces_plain_append {plain : Text} (markerless : Marker.mayContain plain = false)
    (rest : Text) :
    pieces (plain ++ '{' :: rest) = plain.map Piece.plain ++ pieces ('{' :: rest) := by
  induction plain with
  | nil => rfl
  | cons c plain ih =>
      have later := markerless
      rw [Marker.mayContain, Bool.or_eq_false_iff] at later
      rw [List.cons_append, pieces_plain (not_startsBlock_plain markerless), ih later.2]
      rfl

theorem splice_plain (replacement : Block → Text) (plain : Text) :
    splice replacement (plain.map Piece.plain) = plain := by
  induction plain with
  | nil => rfl
  | cons c plain ih =>
      rw [List.map_cons, splice_cons, ih]
      rfl

end Document

/-- A stretch of a document: plain text and a block behind it, written in one of the ways that the
grammar allows. -/
structure Stretch where
  plain : Text
  opening : Opening
  opened : Text
  body : Text
  closing : Text
  markerless : Marker.mayContain plain = false
  opens : Marker.OpeningForm opening opened
  unclosed : ¬ Marker.HoldsClosing body
  closes : Marker.ClosingForm closing

namespace Stretch

instance : Inhabited Stretch where
  default :=
    { plain := "-".toList
      opening := ⟨"web".toList, some "x".toList⟩
      opened := "\x7bFWS webUA=\"x\"\x7d".toList
      body := "\x7bfws any\x7d".toList
      closing := "\x7b fws\x7d".toList
      markerless := by decide
      opens := by decide
      unclosed := by decide
      closes := by decide }

def source (stretch : Stretch) : Text :=
  stretch.plain ++ (stretch.opened ++ (stretch.body ++ stretch.closing))

def shown [PatternEngine] (context : RequestContext) (stretch : Stretch) : Text :=
  stretch.plain ++
    (evaluate stretch.opening.token stretch.opening.agentPattern stretch.body context).value

/-- A stretch is read as its plain text and its block, whatever follows. -/
theorem pieces_source_append (stretch : Stretch) (rest : Text) :
    Document.pieces (stretch.source ++ rest) =
      stretch.plain.map Piece.plain ++
        .block (stretch.opened ++ (stretch.body ++ stretch.closing))
          ⟨.ofToken stretch.opening.token, stretch.opening.agentPattern, stretch.body⟩ ::
        Document.pieces rest := by
  have form := BlockForm.block stretch.opens stretch.unclosed stretch.closes
  rw [source, List.append_assoc, ← Document.pieces_block form rest]
  obtain ⟨word, more, _, same⟩ := form.exists_prefix
  rw [same, List.cons_append, Document.pieces_plain_append stretch.markerless]

end Stretch

/-- Filtering a document whose beginning is a row of stretches shows each stretch by itself, and
then what filtering makes of the rest. What a block says or holds, be it an unusable pattern, an
unknown condition or an opening marker in its body, has no effect beyond that block. -/
theorem filter_stretches [PatternEngine] (context : RequestContext) (stretches : List Stretch)
    (rest : Text) :
    (filter context (stretches.flatMap Stretch.source ++ rest)).value =
      stretches.flatMap (Stretch.shown context) ++ (filter context rest).value := by
  have filtered : ∀ text, (filter context text).value =
      Document.splice (Block.replacement context defaultPatternSizeLimit)
        (Document.pieces text) :=
    fun text => FilterSettings.filter_text_of_accepts context
      (FilterSettings.accepts_of_maxInputBytes_eq_none rfl text)
  rw [filtered, filtered]
  induction stretches with
  | nil => rfl
  | cons stretch stretches ih =>
      rw [List.flatMap_cons, List.append_assoc, stretch.pieces_source_append,
        Document.splice_append, Document.splice_plain, Document.splice_cons, ih,
        List.flatMap_cons, Stretch.shown]
      simp [Piece.render, evaluate, Block.evaluate]

end ConditionalText
