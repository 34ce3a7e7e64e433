import ConditionalText.Proofs.Rewriting

/-!
Cutting a document in two. Where no block reaches across the cut, each half is read and filtered
by itself, and the two results, one behind the other, are those of the whole. The cut may go through
a marker: a block that begins before it and could end behind it would be a block of the whole.
-/

namespace ConditionalText

namespace Document

theorem mem_place_cons {block : PlacedBlock} {offset : Nat} {part : Piece} {parts : List Piece}
    (member : block ∈ place (offset + part.source.utf8Length) parts) :
    block ∈ place offset (part :: parts) := by
  cases part with
  | plain c => simpa [place, Piece.source] using member
  | block source content => exact List.mem_cons_of_mem _ member

theorem source_le_of_outside {part : Piece} {parts : List Piece} {offset : Nat} {left right : Text}
    (whole : sources (part :: parts) = left ++ right) (filled : left ≠ [])
    (outside : ∀ block ∈ place offset (part :: parts),
      offset + left.utf8Length ≤ block.start ∨ block.stop ≤ offset + left.utf8Length) :
    part.source.utf8Length ≤ left.utf8Length := by
  cases part with
  | plain c =>
      cases left with
      | nil => contradiction
      | cons head left =>
          simp only [sources_cons, Piece.source, List.cons_append, List.cons.injEq] at whole
          simp [Piece.source, whole.1]
  | block source content =>
      have positive := Text.utf8Length_pos filled
      rcases outside _ (List.mem_cons_self ..) with behind | before
      · simp only at behind
        omega
      · simp only at before
        simp only [Piece.source]
        omega

theorem exists_cut_of_outside {parts : List Piece} {offset : Nat} {left right : Text}
    (whole : sources parts = left ++ right)
    (outside : ∀ block ∈ place offset parts,
      offset + left.utf8Length ≤ block.start ∨ block.stop ≤ offset + left.utf8Length) :
    ∃ earlier later, parts = earlier ++ later ∧ sources earlier = left ∧
      sources later = right := by
  induction parts generalizing offset left with
  | nil =>
      obtain ⟨rfl, rfl⟩ := List.append_eq_nil_iff.mp whole.symm
      exact ⟨[], [], rfl, rfl, rfl⟩
  | cons part parts ih =>
      by_cases empty : left = []
      · subst empty
        exact ⟨[], part :: parts, rfl, rfl, whole⟩
      · -- The first part lies before the cut, so the cut goes through the others.
        have ended := source_le_of_outside whole empty outside
        rw [sources_cons] at whole
        obtain ⟨middle, rfl, rest⟩ := Text.append_eq_append_of_le whole ended
        rw [Text.utf8Length_append, ← Nat.add_assoc] at outside
        obtain ⟨earlier, later, rfl, rfl, behind⟩ :=
          ih rest (fun block member => outside block (mem_place_cons member))
        exact ⟨part :: earlier, later, rfl, rfl, behind⟩

/-- The parts of the halves are those of the whole if no block reaches across the cut. -/
theorem pieces_append_of_outside {left right : Text}
    (outside : ∀ block ∈ blocks (left ++ right),
      left.utf8Length ≤ block.start ∨ block.stop ≤ left.utf8Length) :
    pieces (left ++ right) = pieces left ++ pieces right := by
  rw [blocks_eq_scan, scan, ← Nat.zero_add left.utf8Length] at outside
  obtain ⟨earlier, later, cut, rfl, rfl⟩ := exists_cut_of_outside (sources_pieces _) outside
  rw [cut, pieces_earlier cut, pieces_later cut]

end Document

/-- A document may be cut between any two characters that no block holds together: the blocks of
the whole are those of the left half, and then those of the right half as far behind as the left
half is long, and filtering the whole gives what filtering the halves gives. -/
theorem cut_between_blocks [PatternEngine] (settings : FilterSettings) (left right : Text)
    (unlimited : settings.maxInputBytes = none)
    (outside : ∀ block ∈ Document.blocks (left ++ right),
      left.utf8Length ≤ block.start ∨ block.stop ≤ left.utf8Length) :
    Document.blocks (left ++ right) =
        Document.blocks left ++
          (Document.blocks right).map (PlacedBlock.moved 0 left.utf8Length) ∧
      ∀ context, (settings.filter context (left ++ right)).value.text (left ++ right) =
        (settings.filter context left).value.text left ++
          (settings.filter context right).value.text right := by
  have cut := Document.pieces_append_of_outside outside
  constructor
  · have behind := Document.place_moved 0 left.utf8Length 0 (Document.pieces right)
    rw [Nat.add_zero, Nat.add_zero] at behind
    simp only [Document.blocks_eq_scan, Document.scan]
    rw [cut, Document.place_append, Document.sources_pieces, Nat.zero_add, behind]
  · intro context
    have accepted := FilterSettings.accepts_of_maxInputBytes_eq_none unlimited
    rw [FilterSettings.filter_text_of_accepts context (accepted _),
      FilterSettings.filter_text_of_accepts context (accepted _),
      FilterSettings.filter_text_of_accepts context (accepted _), cut, Document.splice_append]

/-- The cut goes through the keyword of a marker whose token is malformed. -/
theorem cut_inside_malformed_marker :
    let _engine : PatternEngine := .estimating (fun _ => "regex parse error".toList)
    let left : Text := "\u00e4\x7bfws web\x7dA\x7bfws\x7d\x7bfw".toList
    let right : Text := "s we-b\x7d\x7bfws ws\x7dB\x7bfws\x7d".toList
    (∀ block ∈ Document.blocks (left ++ right),
      left.utf8Length ≤ block.start ∨ block.stop ≤ left.utf8Length) ∧
    Document.blocks (left ++ right) =
      Document.blocks left ++
        (Document.blocks right).map (PlacedBlock.moved 0 left.utf8Length) ∧
    ∀ context, (FilterSettings.filter {} context (left ++ right)).value.text (left ++ right) =
      (FilterSettings.filter {} context left).value.text left ++
        (FilterSettings.filter {} context right).value.text right := by
  intro _engine
  have scanned : Document.blocks
      ("\u00e4\x7bfws web\x7dA\x7bfws\x7d\x7bfw".toList ++
        "s we-b\x7d\x7bfws ws\x7dB\x7bfws\x7d".toList) =
      [⟨⟨.web, none, "A".toList⟩, 2, 17⟩, ⟨⟨.service, none, "B".toList⟩, 27, 41⟩] := by cbv
  have outside : ∀ block ∈ Document.blocks
      ("\u00e4\x7bfws web\x7dA\x7bfws\x7d\x7bfw".toList ++
        "s we-b\x7d\x7bfws ws\x7dB\x7bfws\x7d".toList),
      20 ≤ block.start ∨ block.stop ≤ 20 := by
    rw [scanned]
    decide
  exact ⟨outside, cut_between_blocks {} _ _ rfl outside⟩

end ConditionalText
