import ConditionalText.Proofs.Rewriting

/-!
The body of a block that is not shown has no influence on what is. An opening marker before the
block can reach across it only within a quoted pattern, so a body without quotes may be exchanged
for another one without quotes: whatever began a block before still does, and nothing else does.
-/

namespace ConditionalText

namespace Marker

theorem OpeningForm.exists_last {opening : Opening} {opened : Text}
    (form : OpeningForm opening opened) : ∃ front, opened = front ++ ['}'] := by
  cases form with
  | @marker word blanks token attributeText trailing agentPattern =>
      exact ⟨'{' :: (word ++ (blanks ++ (token ++ (attributeText ++ trailing)))), by simp⟩

theorem OpeningForm.brace_cases {opening : Opening} {opened : Text}
    (form : OpeningForm opening opened) :
    (∃ front, '}' ∉ front ∧ opened = front ++ ['}']) ∨
    ∃ front value trailing, '}' ∉ front ∧ '"' ∉ value ∧ '}' ∉ trailing ∧
      opened = front ++ (value ++ '"' :: (trailing ++ ['}'])) ∧
      ∀ value' : Text, value' ≠ [] → '"' ∉ value' →
        ∃ opening', OpeningForm opening' (front ++ (value' ++ '"' :: (trailing ++ ['}']))) := by
  cases form with
  | @marker word blanks token attributeText trailing agentPattern folded spaced blank named
      alphanumeric attributed ended =>
      have inWord : '}' ∉ word := Text.mark_notMem (alphanumeric_of_keyword folded) (by decide)
      have inBlanks : '}' ∉ blanks := Text.mark_notMem blank (by decide)
      have inToken : '}' ∉ token := Text.mark_notMem alphanumeric (by decide)
      have inTrailing : '}' ∉ trailing := Text.mark_notMem ended (by decide)
      cases attributed with
      | absent =>
          refine Or.inl ⟨'{' :: (word ++ (blanks ++ (token ++ trailing))), ?_, by simp⟩
          simp [inWord, inBlanks, inToken, inTrailing]
      | @present blanks' name value blank' named' filled unquoted =>
          have inBlanks' : '}' ∉ blanks' := Text.mark_notMem blank' (by decide)
          have inName : '}' ∉ name :=
            Text.mark_notMem (alphanumeric_of_attributeName named') (by decide)
          refine Or.inr ⟨'{' :: (word ++ (blanks ++ (token ++ (blanks' ++ (name ++ ['=', '"']))))),
            value, trailing, ?_, unquoted, inTrailing, by simp, ?_⟩
          · simp [inWord, inBlanks, inToken, inBlanks', inName]
          · intro value' filled' unquoted'
            have other := OpeningForm.marker folded spaced blank named alphanumeric
              (.present blank' named' filled' unquoted') ended
            exact ⟨_, by simpa using other⟩

/-- A brace inside an opening marker stands in its pattern, so what follows that brace there may
be exchanged as long as no quote is touched. -/
theorem OpeningForm.exchange {opening : Opening} {front inner inner' rest : Text}
    (form : OpeningForm opening (front ++ '}' :: (inner ++ rest)))
    (further : inner ++ rest ≠ []) (unquoted : '"' ∉ inner) (unquoted' : '"' ∉ inner') :
    ∃ opening', OpeningForm opening' (front ++ '}' :: (inner' ++ rest)) := by
  rcases form.brace_cases with ⟨whole, absent, same⟩ |
      ⟨start, value, trailing, inStart, inValue, inTrailing, same, others⟩
  · obtain ⟨_, _, ended⟩ := (List.append_cons_inj_of_notMem absent (by simp)).mp same.symm
    exact absurd ended.symm further
  · obtain ⟨gap, rfl, behind⟩ := Text.append_of_mark_notMem inStart same.symm
    rcases List.append_eq_append_iff.mp behind with ⟨beyond, _, last⟩ | ⟨beyond, rfl, last⟩
    · have inQuoted : '}' ∉ '"' :: trailing := by simpa using inTrailing
      obtain ⟨_, _, ended⟩ := (List.append_cons_inj_of_notMem inQuoted (by simp)).mp
        ((List.cons_append ..).trans last)
      exact absurd ended.symm further
    · cases beyond with
      | nil => simp at last
      | cons c beyond =>
          simp only [List.cons_append, List.cons.injEq] at last
          obtain ⟨rfl, last⟩ := last
          obtain ⟨later, rfl, rfl⟩ := Text.append_of_mark_notMem unquoted last
          have quotefree : '"' ∉ gap ++ '}' :: (inner' ++ later) := by
            simp only [List.mem_append, List.mem_cons, not_or] at inValue ⊢
            exact ⟨inValue.1, inValue.2.1, unquoted', inValue.2.2.2⟩
          obtain ⟨opening', form'⟩ := others (gap ++ '}' :: (inner' ++ later)) (by simp) quotefree
          exact ⟨opening', by simpa using form'⟩

end Marker

/-- Whether a block begins before another one does not depend on the other's body, as long as that
holds no quote. -/
theorem StartsBlock.exchange {opening : Opening} {before opened body body' closing after : Text}
    (opens : Marker.OpeningForm opening opened) (closes : Marker.ClosingForm closing)
    (unquoted : '"' ∉ body) (unquoted' : '"' ∉ body')
    (starts : StartsBlock (before ++ (opened ++ (body ++ (closing ++ after))))) :
    StartsBlock (before ++ (opened ++ (body' ++ (closing ++ after)))) := by
  obtain ⟨first, firstOpened, later, firstOpens, holds, same⟩ := starts
  have closed : ∀ gap, Marker.HoldsClosing (gap ++ (closing ++ after)) :=
    fun gap => ⟨gap, closing, after, closes, rfl⟩
  rw [← List.append_assoc] at same
  rcases List.append_eq_append_iff.mp same with ⟨reach, rfl, behind⟩ | ⟨gap, whole, rfl⟩
  · obtain ⟨front, rfl⟩ := opens.exists_last
    have inClosing := closes.quote_notMem
    rw [← List.append_assoc] at behind
    rcases List.append_eq_append_iff.mp behind with ⟨rest, rfl, rfl⟩ | ⟨rest, inner, rfl⟩
    · have form : Marker.OpeningForm first
          ((before ++ front) ++ '}' :: ((body ++ closing) ++ rest)) := by
        simpa using firstOpens
      have inBoth' : '"' ∉ body' ++ closing := by simp [unquoted', inClosing]
      obtain ⟨first', form'⟩ := form.exchange (by simp [closes.ne_nil])
        (by simp [unquoted, inClosing]) inBoth'
      exact ⟨first', _, later, form', holds, by simp⟩
    · cases reach with
      | nil =>
          exact ⟨first, before ++ (front ++ ['}']), _, by simpa using firstOpens,
            closed body', by simp⟩
      | cons c reach =>
          have form : Marker.OpeningForm first
              ((before ++ front) ++ '}' :: ((c :: reach) ++ [])) := by
            simpa using firstOpens
          have inReach : '"' ∉ c :: reach := by
            intro member
            have inBoth : '"' ∈ body ++ closing := by
              rw [inner]
              exact List.mem_append_left _ member
            rcases List.mem_append.mp inBoth with inBody | inClosing'
            · exact unquoted inBody
            · exact inClosing inClosing'
          obtain ⟨first', form'⟩ := form.exchange (by simp) inReach List.not_mem_nil
          exact ⟨first', before ++ (front ++ ['}']), _, by simpa using form', closed body', by simp⟩
  · refine ⟨first, firstOpened, gap ++ (body' ++ (closing ++ after)), firstOpens, ?_, ?_⟩
    · rw [← List.append_assoc]
      exact closed _
    · rw [← List.append_assoc, whole, List.append_assoc]

namespace Document

/-- The parts of a document after an exchange of one body are the parts of before, but for that
one. -/
theorem pieces_exchange {text : Text} {opening : Opening} {opened body body' closing : Text}
    (opens : Marker.OpeningForm opening opened) (closes : Marker.ClosingForm closing)
    (unquoted : '"' ∉ body) (unquoted' : '"' ∉ body') (unclosed' : ¬ Marker.HoldsClosing body')
    {earlier later : List Piece} {content : Block}
    (cut : pieces text = earlier ++ .block (opened ++ (body ++ closing)) content :: later) :
    pieces (sources earlier ++ (opened ++ (body' ++ (closing ++ sources later)))) =
      earlier ++ .block (opened ++ (body' ++ closing))
        ⟨.ofToken opening.token, opening.agentPattern, body'⟩ :: later := by
  have form' := BlockForm.block opens unclosed' closes
  induction text using pieces_induction generalizing earlier with
  | empty => simp at cut
  | plain c rest never ih =>
      rw [pieces_plain never] at cut
      cases earlier with
      | nil => simp at cut
      | cons part earlier =>
          simp only [List.cons_append, List.cons.injEq] at cut
          obtain ⟨rfl, cut⟩ := cut
          have whole : rest = sources earlier ++
              (opened ++ (body ++ (closing ++ sources later))) := by
            have glued := congrArg sources cut
            simpa [Piece.source] using glued
          have never' : ¬ StartsBlock (c :: (sources earlier ++
              (opened ++ (body' ++ (closing ++ sources later))))) := by
            intro starts
            rw [← List.cons_append] at starts
            have back := StartsBlock.exchange opens closes unquoted' unquoted starts
            rw [whole] at never
            exact never back
          rw [sources_cons, List.cons_append, ← ih cut]
          exact pieces_plain never'
  | block other source rest form ih =>
      rw [pieces_block form] at cut
      cases earlier with
      | nil =>
          simp only [List.nil_append, List.cons.injEq] at cut
          obtain ⟨_, rfl⟩ := cut
          have replaced := pieces_block form' rest
          simpa using replaced
      | cons part earlier =>
          simp only [List.cons_append, List.cons.injEq] at cut
          obtain ⟨rfl, cut⟩ := cut
          rw [sources_cons, List.append_assoc, List.cons_append, ← ih cut]
          exact pieces_block form _

/-- `replaced` is the document `text` with `body` in place of the body of the block, which stands
in `text` where it says. -/
inductive BodyReplaced (block : PlacedBlock) (body : Text) : (text replaced : Text) → Prop where
  | exchange {before opened closing after : Text} {opening : Opening}
      (opens : Marker.OpeningForm opening opened) (closes : Marker.ClosingForm closing)
      (start : block.start = before.utf8Length)
      (stop : block.stop = (before ++ (opened ++ (block.body ++ closing))).utf8Length) :
      BodyReplaced block body (before ++ (opened ++ (block.body ++ (closing ++ after))))
        (before ++ (opened ++ (body ++ (closing ++ after))))

end Document

/-- The body of a block that is not shown may be exchanged without a trace in the filtered text,
and every other block is read as before. The new body must not end the block, and neither body may
hold a quote: an unfinished pattern in front of the block could end there. -/
theorem filter_hidden_body [PatternEngine] (settings : FilterSettings) (context : RequestContext)
    (text body' : Text) (block : PlacedBlock) (unlimited : settings.maxInputBytes = none)
    (found : block ∈ Document.blocks text)
    (hidden : block.verdict context settings.patternSizeLimit ≠ .shown)
    (unquoted : '"' ∉ block.body) (unquoted' : '"' ∉ body')
    (unclosed' : ¬ Marker.HoldsClosing body') :
    ∃ replaced, Document.BodyReplaced block body' text replaced ∧
      (settings.filter context replaced).value.text replaced =
        (settings.filter context text).value.text text ∧
      ∃ earlier later stop',
        stop' + block.body.utf8Length = block.stop + body'.utf8Length ∧
        Document.blocks text = earlier ++ block :: later ∧
        Document.blocks replaced =
          earlier ++ { block with body := body', stop := stop' } ::
            later.map (PlacedBlock.moved block.stop stop') := by
  obtain ⟨earlier, source, later, cut, form, start, stop⟩ :=
    Document.exists_part_of_mem_blocks found
  obtain ⟨⟨condition, agentPattern, body⟩, blockStart, blockStop⟩ := block
  cases form with
  | @block opening opened _ closing opens unclosed closes =>
      simp only at start stop unquoted
      have whole : text = Document.sources earlier ++
          (opened ++ (body ++ (closing ++ Document.sources later))) := by
        have glued := congrArg Document.sources cut
        simpa [Piece.source] using glued
      have cut' := Document.pieces_exchange opens closes unquoted unquoted' unclosed' cut
      subst start
      have stop_eq : blockStop =
          (Document.sources earlier ++ (opened ++ (body ++ closing))).utf8Length := by
        rw [stop, ← Text.utf8Length_append]
      refine ⟨_, by rw [whole]; exact .exchange opens closes rfl stop_eq, ?_,
        Document.place 0 earlier, Document.place blockStop later,
        (Document.sources earlier ++ (opened ++ (body' ++ closing))).utf8Length, ?_, ?_, ?_⟩
      · have unlimited' := FilterSettings.accepts_of_maxInputBytes_eq_none unlimited
        rw [FilterSettings.filter_text_of_accepts context (unlimited' text),
          FilterSettings.filter_text_of_accepts context (unlimited' _), cut, cut']
        have nothing := Block.replacement_of_not_shown hidden
        have nothing' : Block.replacement context settings.patternSizeLimit
            ⟨.ofToken opening.token, opening.agentPattern, body'⟩ = [] :=
          Block.replacement_of_not_shown hidden
        simp [Piece.render, nothing, nothing']
      · simp only [stop_eq, Text.utf8Length_append]
        omega
      · rw [Document.blocks_eq_of_cut cut, ← stop_eq]
      · rw [Document.blocks_eq_of_cut cut']
        have moved := Document.place_moved blockStop
          (Document.sources earlier ++ (opened ++ (body' ++ closing))).utf8Length 0 later
        rw [Nat.add_zero, Nat.add_zero] at moved
        rw [moved]

/-- The hidden block stands in what could become a quoted pattern. -/
theorem filter_hidden_body_behind_open_quote :
    let _engine : PatternEngine := .estimating (fun _ => "regex parse error".toList)
    ∃ replaced,
      Document.BodyReplaced ⟨⟨.service, none, "old".toList⟩, 13, 29⟩ "new \x7bfws any\x7d".toList
        "\x7bfws web ua=\"\x7bfws ws\x7dold\x7bfws\x7d\"-".toList replaced ∧
      (FilterSettings.filter {} (.web []) replaced).value.text replaced =
        (FilterSettings.filter {} (.web [])
          "\x7bfws web ua=\"\x7bfws ws\x7dold\x7bfws\x7d\"-".toList).value.text
          "\x7bfws web ua=\"\x7bfws ws\x7dold\x7bfws\x7d\"-".toList ∧
      ∃ earlier later stop', stop' + 3 = 29 + 13 ∧
        Document.blocks "\x7bfws web ua=\"\x7bfws ws\x7dold\x7bfws\x7d\"-".toList =
          earlier ++ ⟨⟨.service, none, "old".toList⟩, 13, 29⟩ :: later ∧
        Document.blocks replaced =
          earlier ++ ⟨⟨.service, none, "new \x7bfws any\x7d".toList⟩, 13, stop'⟩ ::
            later.map (PlacedBlock.moved 29 stop') := by
  intro _engine
  have scanned :
      Document.blocks "\x7bfws web ua=\"\x7bfws ws\x7dold\x7bfws\x7d\"-".toList =
        [⟨⟨.service, none, "old".toList⟩, 13, 29⟩] := by cbv
  exact filter_hidden_body {} (.web []) _ _ ⟨⟨.service, none, "old".toList⟩, 13, 29⟩ rfl
    (by rw [scanned]; exact List.mem_singleton_self _) (by decide) (by decide) (by decide)
    (by decide)

end ConditionalText
