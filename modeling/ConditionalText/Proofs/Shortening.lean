import ConditionalText.Proofs.BlockLength
import ConditionalText.Proofs.Refusal

/-!
Filtering counts the blocks that it replaces and does not compare texts. That comes to the same: the
document is kept exactly if its text does not change, since a text in which blocks were replaced is
shorter by twelve bytes for each of them.
-/

namespace ConditionalText.FilterSettings

theorem Refuses.not_accepts {settings : FilterSettings} {text : Text} {limit : UInt64}
    (refused : settings.Refuses text limit) : ¬ settings.Accepts text := by
  intro accepted
  obtain ⟨present, limited, longer⟩ := refused
  have within := accepted limit limited present
  omega

variable [PatternEngine] (settings : FilterSettings) (context : RequestContext)

theorem filter_value_of_accepts {settings : FilterSettings} {text : Text}
    (accepted : settings.Accepts text) :
    (settings.filter context text).value = (settings.rewrite context text).value :=
  settings.filter_value_of_tryFilter_eq_ok context (tryFilter_value_of_accepts context accepted)

theorem filter_value_of_refuses {settings : FilterSettings} {text : Text} {limit : UInt64}
    (refused : settings.Refuses text limit) : (settings.filter context text).value = .kept :=
  settings.filter_value_of_tryFilter_eq_error context (tryFilter_of_refuses context refused)

theorem rewrite_value_eq_kept_iff (text : Text) :
    (settings.rewrite context text).value = .kept ↔ Document.blocks text = [] := by
  rw [rewrite_value, Document.blocks_eq_scan]
  split
  · rename_i empty
    exact ⟨fun _ => empty, fun _ => rfl⟩
  · rename_i filled
    constructor
    · intro kept
      cases kept
    · intro empty
      exact absurd empty filled

theorem rewrite_utf8Length_le (text : Text) :
    ((settings.rewrite context text).value.text text).utf8Length +
      12 * (Document.blocks text).length ≤ text.utf8Length := by
  rw [rewrite_text]
  exact Document.splice_replacement_utf8Length_le context settings.patternSizeLimit text

theorem filter_value_eq_kept_iff (text : Text) :
    (settings.filter context text).value = .kept ↔
      (∃ limit, settings.Refuses text limit) ∨ Document.blocks text = [] := by
  cases settings.accepts_or_refuses text with
  | inl accepted =>
      rw [filter_value_of_accepts context accepted, rewrite_value_eq_kept_iff]
      constructor
      · intro empty
        exact Or.inr empty
      · intro cause
        obtain ⟨limit, refused⟩ | empty := cause
        · exact absurd accepted refused.not_accepts
        · exact empty
  | inr refused =>
      obtain ⟨limit, refused⟩ := refused
      exact ⟨fun _ => Or.inl ⟨limit, refused⟩, fun _ => filter_value_of_refuses context refused⟩

/-- Only a document with blocks is rewritten, and then every block counts. -/
theorem utf8Length_le_of_filter_value_eq_rewritten {text output : Text}
    (rewritten : (settings.filter context text).value = .rewritten output) :
    output.utf8Length < text.utf8Length ∧
      output.utf8Length + 12 * (Document.blocks text).length ≤ text.utf8Length := by
  cases settings.accepts_or_refuses text with
  | inl accepted =>
      rw [filter_value_of_accepts context accepted] at rewritten
      have saved := settings.rewrite_utf8Length_le context text
      rw [rewritten, Outcome.text] at saved
      have some_block : Document.blocks text ≠ [] := by
        intro empty
        rw [(settings.rewrite_value_eq_kept_iff context text).mpr empty] at rewritten
        cases rewritten
      have positive := List.length_pos_iff.mpr some_block
      exact ⟨by omega, saved⟩
  | inr refused =>
      obtain ⟨limit, refused⟩ := refused
      rw [filter_value_of_refuses context refused] at rewritten
      cases rewritten

/-- A document is kept exactly if filtering does not change its text, and that is so exactly if the
document is too long to be scanned or has no blocks. One that is not kept gets shorter, by twelve
bytes at least for each of its blocks, whichever of them are shown. -/
theorem filter_kept_or_shorter (text : Text) :
    ((settings.filter context text).value = .kept ↔
      (settings.filter context text).value.text text = text) ∧
    ((settings.filter context text).value = .kept ↔
      (∃ limit, settings.Refuses text limit) ∨ Document.blocks text = []) ∧
    ∀ output, (settings.filter context text).value = .rewritten output →
      output.utf8Length < text.utf8Length ∧
        output.utf8Length + 12 * (Document.blocks text).length ≤ text.utf8Length := by
  have shorter : ∀ output, (settings.filter context text).value = .rewritten output →
      output.utf8Length < text.utf8Length ∧
        output.utf8Length + 12 * (Document.blocks text).length ≤ text.utf8Length := by
    intro output rewritten
    exact settings.utf8Length_le_of_filter_value_eq_rewritten context rewritten
  refine ⟨?_, settings.filter_value_eq_kept_iff context text, shorter⟩
  constructor
  · intro kept
    rw [kept]
    rfl
  · intro same
    cases outcome : (settings.filter context text).value with
    | kept => rfl
    | rewritten output =>
        have less := (shorter output outcome).1
        rw [outcome, Outcome.text] at same
        rw [same] at less
        exact absurd less (Nat.lt_irrefl _)

end ConditionalText.FilterSettings
