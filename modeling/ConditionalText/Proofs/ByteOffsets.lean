import ConditionalText.Text.Basic

/-!
Byte offsets and the parts of a text that they cut out. An offset between two characters stands
for one way to split the text, so parts can be compared by their offsets.
-/

namespace ConditionalText.Text

theorem utf8Length_pos {text : Text} (filled : text ≠ []) : 0 < text.utf8Length := by
  cases text with
  | nil => contradiction
  | cons c text =>
      have positive := c.utf8Size_pos
      simp only [utf8Length_cons]
      omega

theorem eq_nil_of_utf8Length_eq_zero {text : Text} (zero : text.utf8Length = 0) : text = [] := by
  cases text with
  | nil => rfl
  | cons c text =>
      have positive := c.utf8Size_pos
      rw [utf8Length_cons] at zero
      omega

/-- Of two ways to split a text, the one with the smaller offset splits the first part of the
other. -/
theorem append_eq_append_of_le {left right left' right' : Text}
    (same : left ++ right = left' ++ right') (before : left.utf8Length ≤ left'.utf8Length) :
    ∃ middle, left' = left ++ middle ∧ right = middle ++ right' := by
  rcases List.append_eq_append_iff.mp same with ⟨middle, longer, rest⟩ | ⟨middle, longer, rest⟩
  · exact ⟨middle, longer, rest⟩
  · have empty : middle = [] := by
      apply eq_nil_of_utf8Length_eq_zero
      rw [longer, utf8Length_append] at before
      omega
    subst middle
    exact ⟨[], by simpa using longer.symm, by simpa using rest.symm⟩

theorem append_inj_of_eq {left right left' right' : Text}
    (same : left ++ right = left' ++ right') (offset : left.utf8Length = left'.utf8Length) :
    left = left' ∧ right = right' := by
  obtain ⟨middle, longer, rest⟩ := append_eq_append_of_le same (Nat.le_of_eq offset)
  have empty : middle = [] := by
    apply eq_nil_of_utf8Length_eq_zero
    rw [longer, utf8Length_append] at offset
    omega
  subst middle
  exact ⟨by simpa using longer.symm, by simpa using rest⟩

/-- The part stands in the text between the two byte offsets. -/
def Stands (part text : Text) (start stop : Nat) : Prop :=
  ∃ before after, text = before ++ (part ++ after) ∧ start = before.utf8Length ∧
    stop = before.utf8Length + part.utf8Length

theorem Stands.stop_eq {part text : Text} {start stop : Nat}
    (stands : Stands part text start stop) :
    stop = start + part.utf8Length := by
  obtain ⟨before, after, _, rfl, rfl⟩ := stands
  rfl

theorem Stands.split {part before rest : Text} {start stop : Nat}
    (stands : Stands part (before ++ rest) start stop) (behind : before.utf8Length ≤ start) :
    ∃ gap after, rest = gap ++ (part ++ after) ∧ start = before.utf8Length + gap.utf8Length := by
  obtain ⟨before', after, same, rfl, _⟩ := stands
  obtain ⟨gap, rfl, rfl⟩ := append_eq_append_of_le same behind
  exact ⟨gap, after, rfl, by rw [utf8Length_append]⟩

theorem Stands.split_at {part before rest : Text} {stop : Nat}
    (stands : Stands part (before ++ rest) before.utf8Length stop) :
    ∃ after, rest = part ++ after := by
  obtain ⟨gap, after, rfl, offset⟩ := stands.split (Nat.le_refl _)
  have empty : gap = [] := by
    apply eq_nil_of_utf8Length_eq_zero
    omega
  exact ⟨after, by rw [empty, List.nil_append]⟩

/-! Slices -/

theorem utf8ByteSize_ofList (text : Text) :
    (String.ofList text).utf8ByteSize = text.utf8Length := by
  induction text with
  | nil => rfl
  | cons c text ih =>
      have split : String.ofList (c :: text) = String.singleton c ++ String.ofList text := by
        rw [String.singleton_eq_ofList, ← String.ofList_append, List.singleton_append]
      rw [split, String.utf8ByteSize_append, String.utf8ByteSize_singleton, ih, utf8Length_cons]

/-- A character of the text begins at the byte `offset`, or the text ends there. -/
def IsBoundary (text : Text) (offset : Nat) : Prop :=
  String.Pos.Raw.IsValid (String.ofList text) ⟨offset⟩

theorem isBoundary_iff {text : Text} {offset : Nat} :
    text.IsBoundary offset ↔
      ∃ before after, text = before ++ after ∧ offset = before.utf8Length := by
  rw [IsBoundary, String.Pos.Raw.isValid_iff_exists_append]
  constructor
  · intro split
    obtain ⟨before, after, whole, reached⟩ := split
    refine ⟨before.toList, after.toList, ?_, ?_⟩
    · rw [← String.toList_append, ← whole, String.toList_ofList]
    · rw [← utf8ByteSize_ofList, String.ofList_toList]
      exact congrArg String.Pos.Raw.byteIdx reached
  · intro split
    obtain ⟨before, after, rfl, rfl⟩ := split
    refine ⟨String.ofList before, String.ofList after, String.ofList_append, ?_⟩
    rw [← utf8ByteSize_ofList]
    rfl

/-- The part of the text between the two byte offsets can be cut out. -/
structure Sliceable (text : Text) (start stop : Nat) : Prop where
  ordered : start ≤ stop
  inRange : stop ≤ text.utf8Length
  startBoundary : text.IsBoundary start
  stopBoundary : text.IsBoundary stop

theorem Stands.sliceable {part text : Text} {start stop : Nat}
    (stands : Stands part text start stop) : text.Sliceable start stop := by
  obtain ⟨before, after, rfl, rfl, rfl⟩ := stands
  constructor
  · omega
  · simp only [utf8Length_append]
    omega
  · exact isBoundary_iff.mpr ⟨before, part ++ after, rfl, rfl⟩
  · exact isBoundary_iff.mpr
      ⟨before ++ part, after, by rw [List.append_assoc], by rw [utf8Length_append]⟩

theorem Sliceable.stands {text : Text} {start stop : Nat} (sliceable : text.Sliceable start stop) :
    Stands (text.slice start stop) text start stop := by
  obtain ⟨before, rest, rfl, rfl⟩ := isBoundary_iff.mp sliceable.startBoundary
  obtain ⟨before', after, same, rfl⟩ := isBoundary_iff.mp sliceable.stopBoundary
  obtain ⟨part, rfl, rfl⟩ := append_eq_append_of_le same sliceable.ordered
  rw [utf8Length_append, slice_append]
  exact ⟨before, after, rfl, rfl, rfl⟩

theorem Sliceable.dropBytes_eq {text : Text} {start stop : Nat}
    (sliceable : text.Sliceable start stop) :
    text.dropBytes start = text.slice start stop ++ text.dropBytes stop := by
  have stop_eq := sliceable.stands.stop_eq
  obtain ⟨before, after, whole, rfl, _⟩ := sliceable.stands
  generalize text.slice before.utf8Length stop = part at whole stop_eq ⊢
  subst whole
  rw [dropBytes_append, stop_eq, ← utf8Length_append, ← List.append_assoc, dropBytes_append]

end ConditionalText.Text
