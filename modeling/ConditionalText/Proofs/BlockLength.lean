import ConditionalText.Proofs.Rewriting

/-!
How many bytes the markers of a block take: seven at least for the opening one and five at least for
the closing one. A block leaves its body or nothing, so each block that is replaced makes the text
shorter by twelve bytes at least.
-/

namespace ConditionalText

theorem Text.length_le_utf8Length (text : Text) : text.length ≤ text.utf8Length := by
  induction text with
  | nil => exact Nat.le_refl 0
  | cons c text ih =>
      have positive := c.utf8Size_pos
      rw [List.length_cons, Text.utf8Length_cons]
      omega

namespace Marker

theorem utf8Length_ge_of_keyword {word : Text} (keyworded : word.lowerAscii = keyword) :
    3 ≤ word.utf8Length := by
  have letters : word.length = 3 := by
    rw [← List.length_map Char.toLower]
    exact congrArg List.length keyworded
  have bytes := word.length_le_utf8Length
  omega

theorem OpeningForm.utf8Length_ge {opening : Opening} {opened : Text}
    (form : OpeningForm opening opened) : 7 ≤ opened.utf8Length := by
  cases form with
  | @marker word blanks token attributeText trailing agentPattern keyworded spaced blank named =>
      have inWord := utf8Length_ge_of_keyword keyworded
      have inBlanks := Text.utf8Length_pos spaced
      have inToken := Text.utf8Length_pos named
      have opener := Char.utf8Size_pos '{'
      have closer := Char.utf8Size_pos '}'
      simp only [Text.utf8Length_cons, Text.utf8Length_append]
      omega

theorem ClosingForm.utf8Length_ge {closing : Text} (form : ClosingForm closing) :
    5 ≤ closing.utf8Length := by
  cases form with
  | @marker leading word trailing started keyworded ended =>
      have inWord := utf8Length_ge_of_keyword keyworded
      have opener := Char.utf8Size_pos '{'
      have closer := Char.utf8Size_pos '}'
      simp only [Text.utf8Length_cons, Text.utf8Length_append]
      omega

end Marker

theorem BlockForm.body_utf8Length_le {block : Block} {source : Text}
    (form : BlockForm block source) : block.body.utf8Length + 12 ≤ source.utf8Length := by
  cases form with
  | @block opening opened body closing opens unclosed closes =>
      have before := opens.utf8Length_ge
      have behind := closes.utf8Length_ge
      simp only [Text.utf8Length_append]
      omega

theorem Block.replacement_utf8Length_le [PatternEngine] (context : RequestContext)
    (sizeLimit : UInt64) (block : Block) :
    (block.replacement context sizeLimit).utf8Length ≤ block.body.utf8Length := by
  by_cases shown : block.verdict context sizeLimit = .shown
  · rw [Block.replacement_of_shown shown]
  · rw [Block.replacement_of_not_shown shown]
    exact Nat.zero_le _

/-- Replacing blocks by no more than their bodies saves twelve bytes a block. -/
theorem Document.splice_utf8Length_le {replacement : Block → Text}
    (within : ∀ block, (replacement block).utf8Length ≤ block.body.utf8Length) (text : Text)
    (offset : Nat) :
    (splice replacement (pieces text)).utf8Length + 12 * (place offset (pieces text)).length ≤
      text.utf8Length := by
  induction text using pieces_induction generalizing offset with
  | empty => simp [place]
  | plain c rest never ih =>
      have later := ih (offset + c.utf8Size)
      rw [pieces_plain never, splice_cons, place]
      simp only [Piece.render, List.cons_append, List.nil_append, Text.utf8Length_cons]
      omega
  | block content source rest form ih =>
      have later := ih (offset + source.utf8Length)
      have saved := form.body_utf8Length_le
      have replaced := within content
      rw [pieces_block form, splice_cons, place]
      simp only [Piece.render, Text.utf8Length_append, List.length_cons]
      omega

theorem Document.splice_replacement_utf8Length_le [PatternEngine] (context : RequestContext)
    (sizeLimit : UInt64) (text : Text) :
    (splice (Block.replacement context sizeLimit) (pieces text)).utf8Length +
      12 * (blocks text).length ≤ text.utf8Length := by
  rw [blocks_eq_scan]
  exact splice_utf8Length_le (Block.replacement_utf8Length_le context sizeLimit) text 0

end ConditionalText
