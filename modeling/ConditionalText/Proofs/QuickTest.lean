import ConditionalText.Proofs.LeftmostReading
import ConditionalText.Proofs.Rewriting
import ConditionalText.Proofs.Utf8Bytes

/-!
The quick test for opening markers. It finds the fixed beginning of an opening marker wherever it
stands, in whatever case, be it looked for among the characters or among the bytes; and where it
finds nothing, no block begins. So it decides how soon a document is done with and nothing else.
-/

namespace ConditionalText

namespace Marker

theorem afterWord?_isSome_iff {word text : Text} :
    (afterWord? word text).isSome = true ↔ word <+: text.lowerAscii := by
  rw [Option.isSome_iff_exists]
  simp only [afterWord?_eq_some_iff]
  constructor
  · rintro ⟨rest, written, rfl, rfl⟩
    exact ⟨rest.lowerAscii, List.map_append.symm⟩
  · rintro ⟨rest', same⟩
    obtain ⟨written, rest, rfl, lowered, _⟩ := List.map_eq_append_iff.mp same.symm
    exact ⟨rest, written, lowered, rfl⟩

theorem mayContain_iff_lowerAscii {text : Text} :
    mayContain text = true ↔ openingPrefix <:+: text.lowerAscii := by
  induction text with
  | nil =>
      have filled : openingPrefix ≠ [] := List.cons_ne_nil _ _
      simp [mayContain, Text.lowerAscii, filled]
  | cons c text ih =>
      rw [mayContain, Bool.or_eq_true, afterWord?_isSome_iff, ih]
      exact List.infix_cons_iff.symm

theorem mayContain_iff_contains {text : Text} :
    mayContain text = true ↔ text.lowerAscii.contains openingPrefix = true := by
  rw [mayContain_iff_lowerAscii, Text.contains_iff]
  constructor
  · rintro ⟨before, after, same⟩
    exact ⟨before, after, same.symm⟩
  · rintro ⟨before, after, same⟩
    exact ⟨before, after, same.symm⟩

/-- Looking at every four bytes of the text finds the same as looking at its characters. -/
theorem mayContain_iff_window {text : Text} :
    mayContain text = true ↔
      ∃ window, window <:+: text.utf8Bytes ∧
        window.map lowerByte = openingPrefix.utf8Bytes := by
  have ascii : ∀ c ∈ '{' :: keyword, c.toNat ≤ 127 := by simp [keyword_eq]
  rw [mayContain_iff_lowerAscii, openingPrefix, ← Text.infix_utf8Bytes_iff ascii,
    ← Text.map_lowerByte_utf8Bytes]
  constructor
  · rintro ⟨before, after, same⟩
    obtain ⟨front, after', whole, fronted, _⟩ := List.map_eq_append_iff.mp same.symm
    obtain ⟨before', window, rfl, _, lowered⟩ := List.map_eq_append_iff.mp fronted
    exact ⟨window, ⟨before', after', whole.symm⟩, lowered⟩
  · rintro ⟨window, inside, lowered⟩
    rw [← lowered]
    exact inside.map lowerByte

theorem not_startsAt_of_not_mayContain {text : Text} (absent : mayContain text = false)
    (start : Nat) : ¬ Document.StartsAt text start := by
  intro starts
  obtain ⟨before, rest, rfl, rfl⟩ := starts.split
  obtain ⟨opening, opened, later, opens, _, rfl⟩ := Document.startsAt_iff.mp starts
  obtain ⟨word, more, folded, rfl⟩ := opens.exists_prefix
  have present := mayContain_append before folded (more ++ later)
  simp only [List.cons_append, List.append_assoc] at absent
  rw [present] at absent
  cases absent

/-- The quick test tells exactly whether the beginning of an opening marker stands in the text,
among its characters or among its bytes; where it does not, nowhere in the text does a block begin;
and whatever the test tells, the blocks and the outcome are those of a full scan. -/
theorem mayContain_exact [PatternEngine] (settings : FilterSettings)
    (unlimited : settings.maxInputBytes = none) (text : Text) :
    (mayContain text = true ↔ text.lowerAscii.contains openingPrefix = true) ∧
      (mayContain text = true ↔
        ∃ window, window <:+: text.utf8Bytes ∧
          window.map lowerByte = openingPrefix.utf8Bytes) ∧
      (mayContain text = false → ∀ start, ¬ Document.StartsAt text start) ∧
      Document.blocks text = Document.scan text ∧
      ∀ context, (settings.tryFilter context text).value =
        .ok (settings.rewrite context text).value :=
  ⟨mayContain_iff_contains, mayContain_iff_window, not_startsAt_of_not_mayContain,
    Document.blocks_eq_scan text, fun context =>
      FilterSettings.tryFilter_value_of_accepts context
        (FilterSettings.accepts_of_maxInputBytes_eq_none unlimited text)⟩

/-- The letter in the keyword's place is no ASCII letter, though it folds to one. -/
theorem mayContain_exact_long_s :
    let _engine : PatternEngine := .estimating (fun _ => "regex parse error".toList)
    let text : Text := "\u00e4\x7bfw\u017f web\x7dA\x7bFW\u017f\x7d".toList
    ({} : FilterSettings).maxInputBytes = none ∧ mayContain text = false ∧
      (mayContain text = true ↔ text.lowerAscii.contains openingPrefix = true) ∧
      (mayContain text = true ↔
        ∃ window, window <:+: text.utf8Bytes ∧
          window.map lowerByte = openingPrefix.utf8Bytes) ∧
      (mayContain text = false → ∀ start, ¬ Document.StartsAt text start) ∧
      Document.blocks text = Document.scan text ∧
      ∀ context, (FilterSettings.tryFilter {} context text).value =
        .ok (FilterSettings.rewrite {} context text).value := by
  intro _engine text
  exact ⟨rfl, by decide, mayContain_exact {} rfl text⟩

end Marker

end ConditionalText
