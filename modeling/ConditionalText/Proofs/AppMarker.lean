import ConditionalText.Proofs.LowerCase
import ConditionalText.Proofs.RequestRoutes

/-!
Which markers of the companion app are recognised wherever they stand in a user agent. Marker and
user agent are lower-cased each for itself, so a marker can be missed only because of a capital
sigma in it: by itself the sigma may end a word that goes on in the user agent, or the other way
round. A marker whose sigmas are settled within it is always recognised, and no other is.
-/

namespace ConditionalText

namespace Text

/-! What meets a case -/

@[simp] theorem meetsCased_nil : meetsCased [] = false := rfl

theorem meetsCased_cons (c : Char) (text : Text) :
    meetsCased (c :: text) =
      if Unicode.isCaseIgnorable c = true then meetsCased text else Unicode.isCased c := by
  by_cases ignorable : Unicode.isCaseIgnorable c = true
  · rw [meetsCased, List.dropWhile_cons_of_pos ignorable, if_pos ignorable, meetsCased]
  · rw [meetsCased, List.dropWhile_cons_of_neg ignorable, if_neg ignorable]

theorem meetsCased_A (text : Text) : meetsCased ('A' :: text) = true := by
  simp [meetsCased_cons, Unicode.isCaseIgnorable_A, Unicode.isCased_A]

/-- Some character is not transparent to case, so nothing behind the text has a say. -/
def SettlesCase (text : Text) : Prop :=
  ∃ c ∈ text, Unicode.isCaseIgnorable c = false

theorem settlesCase_cons {c : Char} {text : Text} :
    SettlesCase (c :: text) ↔ Unicode.isCaseIgnorable c = false ∨ SettlesCase text := by
  simp [SettlesCase]

theorem meetsCased_append_of_settlesCase {text : Text} (settles : text.SettlesCase) (more : Text) :
    meetsCased (text ++ more) = meetsCased text := by
  induction text with
  | nil => simp [SettlesCase] at settles
  | cons c text ih =>
      by_cases ignorable : Unicode.isCaseIgnorable c = true
      · rcases settlesCase_cons.mp settles with stops | settles
        · rw [ignorable] at stops
          cases stops
        · rw [List.cons_append, meetsCased_cons, meetsCased_cons, if_pos ignorable,
            if_pos ignorable, ih settles]
      · rw [List.cons_append, meetsCased_cons, meetsCased_cons, if_neg ignorable, if_neg ignorable]

theorem meetsCased_append_of_not_settlesCase {text : Text} (undecided : ¬ text.SettlesCase)
    (more : Text) : meetsCased (text ++ more) = meetsCased more := by
  induction text with
  | nil => rfl
  | cons c text ih =>
      rw [settlesCase_cons, not_or, Bool.not_eq_false] at undecided
      rw [List.cons_append, meetsCased_cons, if_pos undecided.1, ih undecided.2]

theorem settlesCase_of_meetsCased {text : Text} (met : meetsCased text = true) :
    text.SettlesCase := by
  by_contra undecided
  have nothing := meetsCased_append_of_not_settlesCase undecided []
  rw [List.append_nil, met] at nothing
  cases nothing

/-! Sigmas -/

/-- Whether a capital sigma ends a word. The text before it is given backwards. -/
def endsWord (before after : Text) : Bool :=
  meetsCased before && !meetsCased after

/-- Whether the sigma ends a word is settled within the two texts around it: what follows goes on
with a letter that has case; or what stands before ends without one; or the word has begun before
and something follows that ends it. -/
def SettledSigma (before after : Text) : Prop :=
  meetsCased after = true ∨ (meetsCased before = false ∧ before.SettlesCase) ∨
    (meetsCased before = true ∧ after.SettlesCase)

/-- Every capital sigma of the text is settled within the text. -/
def SigmasSettled (text : Text) : Prop :=
  ∀ before after, text = before ++ capitalSigma :: after → SettledSigma before.reverse after

theorem SettledSigma.endsWord_eq {before after : Text} (settled : SettledSigma before after)
    (farther later : Text) :
    endsWord (before ++ farther) (after ++ later) = endsWord before after := by
  rcases settled with goesOn | ⟨unbegun, settles⟩ | ⟨begun, settles⟩
  · have same := meetsCased_append_of_settlesCase (settlesCase_of_meetsCased goesOn) later
    simp [endsWord, same, goesOn]
  · have same := meetsCased_append_of_settlesCase settles farther
    simp [endsWord, same, unbegun]
  · have same := meetsCased_append_of_settlesCase (settlesCase_of_meetsCased begun) farther
    have same' := meetsCased_append_of_settlesCase settles later
    simp [endsWord, same, same', begun]

theorem endsWord_of_not_settled {before after : Text} (unsettled : ¬ SettledSigma before after) :
    endsWord before after ≠ endsWord before (after ++ ['A']) ∨
      endsWord before after ≠ endsWord (before ++ ['A']) after := by
  simp only [SettledSigma, not_or, not_and, Bool.not_eq_true] at unsettled
  obtain ⟨ended, beforeOpen, afterOpen⟩ := unsettled
  cases begun : meetsCased before with
  | true =>
      left
      have goesOn := meetsCased_append_of_not_settlesCase (afterOpen begun) ['A']
      simp [endsWord, begun, ended, goesOn, meetsCased_A]
  | false =>
      right
      have begins := meetsCased_append_of_not_settlesCase (beforeOpen begun) ['A']
      simp [endsWord, begun, ended, begins, meetsCased_A]

theorem lowerBetween_of_settled {before text : Text}
    (settled : ∀ front rest, text = front ++ capitalSigma :: rest →
      SettledSigma (front.reverse ++ before) rest) (farther after : Text) :
    lowerBetween (before ++ farther) after text = lowerBetween before [] text := by
  induction text generalizing before with
  | nil => rfl
  | cons c text ih =>
      have others := @ih (c :: before) (by
        intro front rest split
        have shifted := settled (c :: front) rest (by rw [split]; rfl)
        rwa [List.reverse_cons, List.append_assoc, List.singleton_append] at shifted)
      rw [List.cons_append] at others
      rw [lowerBetween, lowerBetween, others]
      split
      · rename_i sigma
        have same := (settled [] text (by rw [sigma]; rfl)).endsWord_eq farther after
        have form : (meetsCased (before ++ farther) && !meetsCased (text ++ after)) =
            (meetsCased before && !meetsCased text) := same
        rw [form, List.append_nil]
      · rfl

theorem length_lowerBetween_eq (before after before' after' text : Text) :
    (lowerBetween before after text).length = (lowerBetween before' after' text).length := by
  have alike := congrArg List.length (mergeSigmas_lowerBetween before after before' after' text)
  simpa [mergeSigmas] using alike

theorem endsWord_eq_of_lowerBetween_eq {before after before' after' front rest : Text}
    (same : lowerBetween before after (front ++ capitalSigma :: rest) =
      lowerBetween before' after' (front ++ capitalSigma :: rest)) :
    endsWord (front.reverse ++ before) (rest ++ after) =
      endsWord (front.reverse ++ before') (rest ++ after') := by
  rw [lowerBetween_append, lowerBetween_append] at same
  have behind := (List.append_inj same (length_lowerBetween_eq ..)).2
  rw [lowerBetween, lowerBetween, if_pos rfl, if_pos rfl] at behind
  have forms := (List.cons.inj behind).1
  have distinct : finalSigma ≠ smallSigma := by decide
  change (if endsWord (front.reverse ++ before) (rest ++ after) = true then finalSigma
      else smallSigma) =
    if endsWord (front.reverse ++ before') (rest ++ after') = true then finalSigma
      else smallSigma at forms
  cases ends : endsWord (front.reverse ++ before) (rest ++ after) <;>
    cases ends' : endsWord (front.reverse ++ before') (rest ++ after')
  · rfl
  · simp [ends, ends', distinct.symm] at forms
  · simp [ends, ends', distinct] at forms
  · rfl

/-! One character more -/

theorem eq_of_prefix_cons {text text' : Text} {c : Char} (plain : ¬ IsSmallSigma c)
    (alike : text.mergeSigmas = text'.mergeSigmas) (starts : text <+: c :: text') :
    text = text' := by
  induction text generalizing text' with
  | nil => exact (List.map_eq_nil_iff.mp alike.symm).symm
  | cons head text ih =>
      obtain ⟨rfl, rest⟩ := List.cons_prefix_cons.mp starts
      obtain ⟨head', others, rfl, first, tail⟩ := List.map_eq_cons_iff.mp alike.symm
      cases eq_of_mergeSigma_eq plain first.symm
      rw [ih tail.symm rest]

theorem eq_of_infix_cons {text text' : Text} {c : Char} (plain : ¬ IsSmallSigma c)
    (alike : text.mergeSigmas = text'.mergeSigmas) (inside : text <:+: c :: text') :
    text = text' := by
  rcases List.infix_cons_iff.mp inside with starts | inside
  · exact eq_of_prefix_cons plain alike starts
  · have length : text.length = text'.length := by
      simpa [mergeSigmas] using congrArg List.length alike
    exact inside.eq_of_length length

theorem eq_of_infix_concat {text text' : Text} {c : Char} (plain : ¬ IsSmallSigma c)
    (alike : text.mergeSigmas = text'.mergeSigmas) (inside : text <:+: text' ++ [c]) :
    text = text' := by
  have alike' : mergeSigmas text.reverse = mergeSigmas text'.reverse := by
    simpa [mergeSigmas] using alike
  have inside' : text.reverse <:+: c :: text'.reverse := by
    simpa using List.reverse_infix.mpr inside
  exact List.reverse_injective (eq_of_infix_cons plain alike' inside')

theorem lowerBetween_A (before after : Text) : lowerBetween before after ['A'] = ['a'] := by
  have plain : 'A' ≠ capitalSigma := by decide
  have undotted : 'A' ≠ '\u0130' := by decide
  rw [lowerBetween, if_neg plain, lowerChar, if_neg undotted, Unicode.lowercase_apply_A]
  rfl

/-- A text whose lower case stands in that of the text between any two others has no sigma that they
could change. -/
theorem sigmasSettled_of_infix_lower {text : Text}
    (always : ∀ before after, text.lower <:+: lower (before ++ text ++ after)) :
    text.SigmasSettled := by
  intro front rest split
  by_contra unsettled
  have small_a : ¬ IsSmallSigma 'a' := not_isSmallSigma_of_ascii (by decide)
  have itself : text.lower = lowerBetween [] [] text := lowerAfter_eq [] text
  rcases endsWord_of_not_settled unsettled with changed | changed
  · have inside := always [] ['A']
    rw [lower_around, lowerBetween_A, itself] at inside
    have same := eq_of_infix_concat small_a (mergeSigmas_lowerBetween ..) inside
    rw [split] at same
    exact changed (by simpa using endsWord_eq_of_lowerBetween_eq same)
  · have inside := always ['A'] []
    rw [lower_around, lowerBetween_A, itself, lowerBetween.eq_1, List.append_nil] at inside
    have same := eq_of_infix_cons small_a (mergeSigmas_lowerBetween ..) inside
    rw [split] at same
    exact changed (by simpa using endsWord_eq_of_lowerBetween_eq same)

end Text

/-- A user agent that contains the marker as it is written is recognised whatever stands around the
marker, if the marker is not empty and settles for each of its capital sigmas whether it ends a
word. Every other marker is missed somewhere. -/
theorem isAppAgent_verbatim_iff (marker : Text) :
    (∀ before after, isAppAgent marker (before ++ marker ++ after) = true) ↔
      marker ≠ [] ∧ marker.SigmasSettled := by
  simp only [isAppAgent_iff]
  constructor
  · intro always
    exact ⟨(always [] []).1,
      Text.sigmasSettled_of_infix_lower fun before after => (always before after).2⟩
  · rintro ⟨filled, settled⟩ before after
    refine ⟨filled, ?_⟩
    have alone : ∀ front rest, marker = front ++ Text.capitalSigma :: rest →
        Text.SettledSigma (front.reverse ++ []) rest := by
      simpa [Text.SigmasSettled] using settled
    have same := Text.lowerBetween_of_settled alone before.reverse after
    rw [List.nil_append] at same
    rw [Text.lower_around, Text.lower, Text.lowerAfter_eq, ← same]
    exact List.infix_append ..

/-- The marker is a capital sigma. By itself it begins a word; in the user agent it ends one. -/
theorem isAppAgent_sigma_missed :
    isAppAgent [Text.capitalSigma] (['A'] ++ [Text.capitalSigma] ++ []) = false := by
  have alone : Text.lower [Text.capitalSigma] = [Text.smallSigma] := by
    simp [Text.lower, Text.lowerAfter]
  have ending : Text.lowerBetween ['A'] [] [Text.capitalSigma] = [Text.finalSigma] := by
    simp [Text.lowerBetween, Text.meetsCased_A]
  have agent : Text.lower (['A'] ++ [Text.capitalSigma] ++ []) = ['a', Text.finalSigma] := by
    rw [Text.lower_around, Text.lowerBetween_A]
    exact congrArg (fun ended => ['a'] ++ ended ++ []) ending
  rw [isAppAgent, alone, agent]
  decide

end ConditionalText
