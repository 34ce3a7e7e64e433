import ConditionalText.Proofs.BlockLength

/-!
Filtering a document again and again, each time for whatever request. What a block leaves may make
a new block with the text around it, so one time is not always enough; but as long as there are
blocks the text gets shorter, and a text without blocks stays as it is for every request.
-/

namespace ConditionalText

section

variable [PatternEngine]

/-! One time -/

theorem filter_utf8Length_le (context : RequestContext) (text : Text) :
    (filter context text).value.utf8Length + 12 * (Document.blocks text).length ≤
      text.utf8Length := by
  rw [filter_value]
  exact Document.splice_replacement_utf8Length_le context defaultPatternSizeLimit text

theorem filter_value_of_blocks_eq_nil {text : Text} (settled : Document.blocks text = [])
    (context : RequestContext) : (filter context text).value = text := by
  rw [Document.blocks_eq_scan] at settled
  rw [filter_value, Document.splice_pieces_of_scan_eq_nil settled]

/-! Many times -/

/-- A step of repeated filtering from one text to the next. Either it leaves the text as it is, and
all later steps do so too for whatever requests; or it saves at least twelve bytes for each block of
the text. -/
def SettlesOrShortens (before after : Text) : Prop :=
  (after = before ∧
    ∀ contexts, ∀ shown ∈ filterRepeatedly contexts before, shown.value = before) ∨
  (Document.blocks before ≠ [] ∧
    after.utf8Length + 12 * (Document.blocks before).length ≤ before.utf8Length)

def filteredForAll (contexts : List RequestContext) (text : Text) : Text :=
  ((filterRepeatedly contexts text).map Reported.value).getLastD text

@[simp] theorem filteredForAll_nil (text : Text) : filteredForAll [] text = text := rfl

@[simp] theorem filteredForAll_cons (context : RequestContext) (others : List RequestContext)
    (text : Text) :
    filteredForAll (context :: others) text =
      filteredForAll others (filter context text).value := by
  rw [filteredForAll, filterRepeatedly, List.map_cons, List.getLastD_cons]
  rfl

theorem value_eq_of_mem_filterRepeatedly {text : Text} (settled : Document.blocks text = [])
    {contexts : List RequestContext} {shown : Reported Text}
    (member : shown ∈ filterRepeatedly contexts text) : shown.value = text := by
  induction contexts with
  | nil => simp [filterRepeatedly] at member
  | cons context others ih =>
      have same := filter_value_of_blocks_eq_nil settled context
      rw [filterRepeatedly] at member
      rcases List.mem_cons.mp member with first | later
      · rw [first, same]
      · rw [same] at later
        exact ih later

theorem filteredForAll_of_blocks_eq_nil {text : Text} (settled : Document.blocks text = [])
    (contexts : List RequestContext) : filteredForAll contexts text = text := by
  induction contexts with
  | nil => rfl
  | cons context others ih =>
      rw [filteredForAll_cons, filter_value_of_blocks_eq_nil settled, ih]

theorem settlesOrShortens_filter (context : RequestContext) (text : Text) :
    SettlesOrShortens text (filter context text).value := by
  by_cases settled : Document.blocks text = []
  · left
    exact ⟨filter_value_of_blocks_eq_nil settled context,
      fun _ _ member => value_eq_of_mem_filterRepeatedly settled member⟩
  · right
    exact ⟨settled, filter_utf8Length_le context text⟩

theorem isChain_filterRepeatedly (contexts : List RequestContext) (text : Text) :
    List.IsChain SettlesOrShortens
      (text :: (filterRepeatedly contexts text).map Reported.value) := by
  induction contexts generalizing text with
  | nil => exact List.IsChain.singleton text
  | cons context others ih =>
      exact List.isChain_cons_cons.mpr
        ⟨settlesOrShortens_filter context text, ih (filter context text).value⟩

/-- As long as blocks are left every step has shortened the text. -/
theorem filteredForAll_settled_or_shorter (contexts : List RequestContext) (text : Text) :
    Document.blocks (filteredForAll contexts text) = [] ∨
      (filteredForAll contexts text).utf8Length + 12 * contexts.length ≤ text.utf8Length := by
  induction contexts generalizing text with
  | nil =>
      right
      exact Nat.le_refl _
  | cons context others ih =>
      rw [filteredForAll_cons, List.length_cons]
      by_cases settled : Document.blocks text = []
      · left
        rw [filter_value_of_blocks_eq_nil settled, filteredForAll_of_blocks_eq_nil settled]
        exact settled
      · rcases ih (filter context text).value with done | shorter
        · exact Or.inl done
        · right
          have some_block : 0 < (Document.blocks text).length := List.length_pos_iff.mpr settled
          have saved := filter_utf8Length_le context text
          omega

/-- Repeated filtering settles. After as many times as twelve bytes go into the document no block is
left, whatever the requests were, and no request changes the text any more; and each time on the
way there leaves the text as it is for good or saves twelve bytes a block. -/
theorem filterRepeatedly_settles (contexts : List RequestContext) (text : Text)
    (enough : text.utf8Length / 12 ≤ contexts.length) :
    Document.blocks (filteredForAll contexts text) = [] ∧
      (∀ context, (filter context (filteredForAll contexts text)).value =
        filteredForAll contexts text) ∧
      List.IsChain SettlesOrShortens
        (text :: (filterRepeatedly contexts text).map Reported.value) := by
  have settled : Document.blocks (filteredForAll contexts text) = [] := by
    rcases filteredForAll_settled_or_shorter contexts text with done | shorter
    · exact done
    · -- What is left is shorter than any block.
      have saved := filter_utf8Length_le (.web []) (filteredForAll contexts text)
      apply List.eq_nil_of_length_eq_zero
      omega
  exact ⟨settled, fun context => filter_value_of_blocks_eq_nil settled context,
    isChain_filterRepeatedly contexts text⟩

end

/-- When the inner block is gone, its surroundings close up and make another block. -/
theorem filterRepeatedly_settles_closed_up_block :
    let _engine : PatternEngine := .estimating (fun _ => "regex parse error".toList)
    let text : Text := "\x7bf\x7bfws ws\x7dx\x7bfws\x7dws web\x7dy\x7bfws\x7d".toList
    let contexts : List RequestContext := [.web [], .service []]
    text.utf8Length / 12 ≤ contexts.length ∧
      Document.blocks (filteredForAll contexts text) = [] ∧
      (∀ context, (filter context (filteredForAll contexts text)).value =
        filteredForAll contexts text) ∧
      List.IsChain SettlesOrShortens
        (text :: (filterRepeatedly contexts text).map Reported.value) := by
  intro _engine text contexts
  have enough : text.utf8Length / 12 ≤ contexts.length := by decide
  exact ⟨enough, filterRepeatedly_settles contexts text enough⟩

example [PatternEngine] :
    (filter (.web []) "\x7bf\x7bfws ws\x7dx\x7bfws\x7dws web\x7dy\x7bfws\x7d".toList).value =
      "\x7bfws web\x7dy\x7bfws\x7d".toList := by cbv

end ConditionalText
