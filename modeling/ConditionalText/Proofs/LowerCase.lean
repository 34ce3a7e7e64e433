import ConditionalText.Proofs.CaseTables
import Mathlib.Data.List.Basic

/-!
The lower case of a part of a text. It is the lower case that the part has by itself, but for the
capital sigmas in it: whether one of them ends a word can depend on what stands around the part. So
up to the two forms of the small sigma, each part of a text has its lower case inside that of the
whole.
-/

namespace ConditionalText.Text

/-- The lower case of a text between `before`, which is given backwards, and `after`. -/
def lowerBetween (before after : Text) : Text → Text
  | [] => []
  | c :: rest =>
      (if c = capitalSigma then
        [if meetsCased before && !meetsCased (rest ++ after) then finalSigma else smallSigma]
      else lowerChar c) ++ lowerBetween (c :: before) after rest

theorem lowerAfter_append (before left right : Text) :
    lowerAfter before (left ++ right) =
      lowerBetween before right left ++ lowerAfter (left.reverse ++ before) right := by
  induction left generalizing before with
  | nil => rfl
  | cons c left ih =>
      rw [List.cons_append, lowerAfter, lowerBetween, ih, List.append_assoc, List.reverse_cons,
        List.append_assoc, List.singleton_append]

theorem lowerAfter_eq (before text : Text) : lowerAfter before text = lowerBetween before [] text := by
  have whole := lowerAfter_append before text []
  rwa [List.append_nil, lowerAfter, List.append_nil] at whole

theorem lowerBetween_append (before after left right : Text) :
    lowerBetween before after (left ++ right) =
      lowerBetween before (right ++ after) left ++
        lowerBetween (left.reverse ++ before) after right := by
  induction left generalizing before with
  | nil => rfl
  | cons c left ih =>
      rw [List.cons_append, lowerBetween, lowerBetween, ih, List.append_assoc, List.append_assoc,
        List.reverse_cons, List.append_assoc, List.singleton_append]

/-- The lower case of a text, part by part. -/
theorem lower_around (before text after : Text) :
    (before ++ text ++ after).lower =
      lowerBetween [] (text ++ after) before ++ lowerBetween before.reverse after text ++
        lowerBetween (text.reverse ++ before.reverse) [] after := by
  rw [lower, lowerAfter_eq, List.append_assoc, lowerBetween_append, lowerBetween_append]
  simp

/-! The two small sigmas -/

def IsSmallSigma (c : Char) : Prop :=
  c = smallSigma ∨ c = finalSigma

def mergeSigma (c : Char) : Char :=
  if c = finalSigma then smallSigma else c

def mergeSigmas (text : Text) : Text :=
  text.map mergeSigma

@[simp] theorem mergeSigmas_append (left right : Text) :
    mergeSigmas (left ++ right) = mergeSigmas left ++ mergeSigmas right :=
  List.map_append

theorem eq_of_mergeSigma_eq {c d : Char} (plain : ¬ IsSmallSigma c)
    (alike : mergeSigma c = mergeSigma d) : c = d := by
  have itself : mergeSigma c = c := if_neg (fun same => plain (Or.inr same))
  rw [itself, mergeSigma] at alike
  split at alike
  · exact absurd (Or.inl alike) plain
  · exact alike

theorem eq_of_mergeSigmas_eq {text text' : Text} (plain : ∀ c ∈ text, ¬ IsSmallSigma c)
    (alike : text.mergeSigmas = text'.mergeSigmas) : text = text' := by
  induction text generalizing text' with
  | nil => exact (List.map_eq_nil_iff.mp alike.symm).symm
  | cons c text ih =>
      obtain ⟨d, others, rfl, head, tail⟩ := List.map_eq_cons_iff.mp alike.symm
      have first := eq_of_mergeSigma_eq (plain c (List.mem_cons_self ..)) head.symm
      have rest := ih (fun c member => plain c (List.mem_cons_of_mem _ member)) tail.symm
      rw [first, rest]

/-- Where a text stands has no say in its lower case but for the form of a small sigma. -/
theorem mergeSigmas_lowerBetween (before after before' after' text : Text) :
    mergeSigmas (lowerBetween before after text) =
      mergeSigmas (lowerBetween before' after' text) := by
  induction text generalizing before before' with
  | nil => rfl
  | cons c text ih =>
      rw [lowerBetween, lowerBetween, mergeSigmas_append, mergeSigmas_append,
        ih (c :: before) (c :: before')]
      split
      · have merged : ∀ final : Bool,
            mergeSigmas [if final then finalSigma else smallSigma] = [smallSigma] := by
          intro final
          cases final <;> rfl
        rw [merged, merged]
      · rfl

/-- What holds no small sigma stands in a text whichever of the two the text has. -/
theorem infix_of_mergeSigmas_eq {needle text text' : Text} (plain : ∀ c ∈ needle, ¬ IsSmallSigma c)
    (alike : text.mergeSigmas = text'.mergeSigmas) (inside : needle <:+: text) :
    needle <:+: text' := by
  obtain ⟨before, after, rfl⟩ := inside
  rw [mergeSigmas_append, mergeSigmas_append] at alike
  obtain ⟨front, after', rfl, fronted, _⟩ := List.map_eq_append_iff.mp alike.symm
  obtain ⟨before', needle', rfl, _, merged⟩ := List.map_eq_append_iff.mp fronted
  exact ⟨before', after', by rw [eq_of_mergeSigmas_eq plain merged.symm]⟩

/-- What holds no small sigma and stands in the lower case of a text also stands in that of a longer
text. -/
theorem infix_lower_of_infix {needle text text' : Text} (plain : ∀ c ∈ needle, ¬ IsSmallSigma c)
    (inside : needle <:+: text.lower) (longer : text <:+: text') : needle <:+: text'.lower := by
  obtain ⟨before, after, rfl⟩ := longer
  rw [lower, lowerAfter_eq] at inside
  rw [lower_around]
  exact (infix_of_mergeSigmas_eq plain (mergeSigmas_lowerBetween ..) inside).trans
    (List.infix_append ..)

/-! ASCII -/

theorem lowerChar_ascii {c : Char} (ascii : c.toNat < 128) :
    ∀ d ∈ lowerChar c, d.toNat < 128 := by
  intro d member
  rw [lowerChar] at member
  split at member
  · rename_i dotted
    rw [dotted] at ascii
    exact absurd ascii (by decide)
  · rw [List.mem_singleton.mp member]
    exact Unicode.lowercase_apply_lt ascii

theorem lowerBetween_ascii {before after text : Text} (ascii : ∀ c ∈ text, c.toNat < 128) :
    ∀ d ∈ lowerBetween before after text, d.toNat < 128 := by
  induction text generalizing before with
  | nil => simp [lowerBetween]
  | cons c text ih =>
      have first := ascii c (List.mem_cons_self ..)
      have noSigma : c ≠ capitalSigma := by
        rintro rfl
        exact absurd first (by decide)
      intro d member
      rw [lowerBetween, if_neg noSigma, List.mem_append] at member
      rcases member with member | member
      · exact lowerChar_ascii first d member
      · exact ih (fun c member => ascii c (List.mem_cons_of_mem _ member)) d member

theorem not_isSmallSigma_of_ascii {c : Char} (ascii : c.toNat < 128) : ¬ IsSmallSigma c := by
  rintro (rfl | rfl)
  · exact absurd ascii (by decide)
  · exact absurd ascii (by decide)

theorem not_isSmallSigma_of_mem_lower {text : Text} (ascii : ∀ c ∈ text, c.toNat < 128) :
    ∀ d ∈ text.lower, ¬ IsSmallSigma d := by
  intro d member
  rw [lower, lowerAfter_eq] at member
  exact not_isSmallSigma_of_ascii (lowerBetween_ascii ascii d member)

end ConditionalText.Text
