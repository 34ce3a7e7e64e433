import ConditionalText.Pattern.Marked
import ConditionalText.Proofs.Stretches

/-!
What the marks of an expression stand for. A mark says that some way through the expression has just
taken the last character; such a way can still go on in several ways, and moving the marks over
one more character keeps exactly those that take it. So one pass over a text finds a match wherever
there is one.
-/

namespace ConditionalText.Marked

/-- What the expression matches, whatever its marks. -/
def Matches : Marked → Stretches
  | .empty => .nothing
  | .set chars _ => fun _ within _ => ∃ c, within = [c] ∧ chars.contains c = true
  | .assertion condition => fun before within after =>
      within = [] ∧ condition.holds before.getLast? after.head? = true
  | .concat first second => first.Matches.followedBy second.Matches
  | .alternation left right => left.Matches.either right.Matches
  | .star inner => inner.Matches.anyTimes

/-- How the ways through the expression that have reached a mark can go on to its end. -/
def Continues : Marked → Stretches
  | .empty => .never
  | .set _ mark => fun _ within _ => mark = true ∧ within = []
  | .assertion _ => .never
  | .concat first second => second.Continues.either (first.Continues.followedBy second.Matches)
  | .alternation left right => left.Continues.either right.Continues
  | .star inner => inner.Continues.followedBy inner.Matches.anyTimes

theorem nullable_iff {expression : Marked} (before after : Text) :
    nullable before.getLast? after.head? expression = true ↔ expression.Matches before [] after := by
  induction expression with
  | empty => simp [nullable, Matches, Stretches.nothing]
  | set chars mark => simp [nullable, Matches]
  | assertion condition => simp [nullable, Matches]
  | concat first second ihFirst ihSecond =>
      rw [nullable, Bool.and_eq_true, ihFirst, ihSecond]
      exact Stretches.followedBy_nil_iff.symm
  | alternation left right ihLeft ihRight =>
      rw [nullable, Bool.or_eq_true, ihLeft, ihRight]
      rfl
  | star inner ih => exact iff_of_true rfl Stretches.anyTimes_nil

theorem finished_iff {expression : Marked} (before after : Text) :
    finished before.getLast? after.head? expression = true ↔
      expression.Continues before [] after := by
  induction expression with
  | empty => simp [finished, Continues, Stretches.never]
  | set chars mark => simp [finished, Continues]
  | assertion condition => simp [finished, Continues, Stretches.never]
  | concat first second ihFirst ihSecond =>
      rw [finished, Bool.or_eq_true, Bool.and_eq_true, ihFirst, ihSecond, nullable_iff]
      exact or_congr_right Stretches.followedBy_nil_iff.symm
  | alternation left right ihLeft ihRight =>
      rw [finished, Bool.or_eq_true, ihLeft, ihRight]
      rfl
  | star inner ih =>
      rw [finished, ih]
      constructor
      · intro continued
        exact Stretches.followedBy_nil_iff.mpr ⟨continued, Stretches.anyTimes_nil⟩
      · intro continued
        exact (Stretches.followedBy_nil_iff.mp continued).1

/-- Moving the marks does not change what the expression matches. -/
theorem matches_advance (previous : Option Char) (c : Char) (enter : Bool) (expression : Marked) :
    (advance previous c enter expression).Matches = expression.Matches := by
  induction expression generalizing enter with
  | empty => rfl
  | set chars mark => rfl
  | assertion condition => rfl
  | concat first second ihFirst ihSecond => simp only [advance, Matches, ihFirst, ihSecond]
  | alternation left right ihLeft ihRight => simp only [advance, Matches, ihLeft, ihRight]
  | star inner ih => simp only [advance, Matches, ih]

/-- After the step over a character the marks stand for the ways that took it: those that went on
from a mark, and those that began with it if they were let in. -/
theorem continues_advance {expression : Marked} {enter : Bool} {before within after : Text}
    {c : Char} :
    (advance before.getLast? c enter expression).Continues (before ++ [c]) within after ↔
      expression.Continues before (c :: within) after ∨
        (enter = true ∧ expression.Matches before (c :: within) after) := by
  induction expression generalizing enter within after with
  | empty => simp [advance, Continues, Matches, Stretches.never, Stretches.nothing]
  | set chars mark =>
      constructor
      · rintro ⟨taken, rfl⟩
        obtain ⟨entered, member⟩ := Bool.and_eq_true_iff.mp taken
        exact Or.inr ⟨entered, c, rfl, member⟩
      · rintro (⟨_, impossible⟩ | ⟨entered, head, same, member⟩)
        · cases impossible
        · obtain ⟨rfl, rfl⟩ := List.cons.inj same
          exact ⟨Bool.and_eq_true_iff.mpr ⟨entered, member⟩, rfl⟩
  | assertion condition => simp [advance, Continues, Matches, Stretches.never]
  | concat first second ihFirst ihSecond =>
      have fromFirst := Stretches.followedBy_step_iff (advance before.getLast? c enter first).Continues
        second.Matches within after (fun left after' => ihFirst)
      have begun : nullable before.getLast? (some c) first = true ↔
          first.Matches before [] (c :: (within ++ after)) := nullable_iff before (c :: _)
      have ended : finished before.getLast? (some c) first = true ↔
          first.Continues before [] (c :: (within ++ after)) := finished_iff before (c :: _)
      simp only [advance, Continues, Matches, Stretches.either, matches_advance, ihSecond,
        Bool.or_eq_true, Bool.and_eq_true, begun, ended, Stretches.followedBy_cons_iff, fromFirst]
      grind
  | alternation left right ihLeft ihRight =>
      simp only [advance, Continues, Matches, Stretches.either, ihLeft, ihRight]
      grind
  | star inner ih =>
      have ended : finished before.getLast? (some c) inner = true ↔
          inner.Continues before [] (c :: (within ++ after)) := finished_iff before (c :: _)
      have fromInner := Stretches.followedBy_step_iff
        (advance before.getLast? c (enter || finished before.getLast? (some c) inner) inner).Continues
        inner.Matches.anyTimes within after (fun left after' => ih)
      simp only [advance, Continues, Matches, matches_advance, fromInner, Bool.or_eq_true, ended,
        Stretches.followedBy_cons_iff, Stretches.anyTimes_cons_iff]
      grind

/-- Some way through the expression ends in the text behind `before`: one that has reached a mark, or
one that begins in that text. -/
def Ends (expression : Marked) (before text : Text) : Prop :=
  (∃ within after, text = within ++ after ∧ expression.Continues before within after) ∨
    ∃ gap within after, text = gap ++ (within ++ after) ∧
      expression.Matches (before ++ gap) within after

theorem ends_nil_iff {expression : Marked} {before : Text} :
    expression.Ends before [] ↔
      expression.Matches before [] [] ∨ expression.Continues before [] [] := by
  constructor
  · rintro (⟨within, after, split, continued⟩ | ⟨gap, within, after, split, matched⟩)
    · obtain ⟨rfl, rfl⟩ := List.append_eq_nil_iff.mp split.symm
      exact Or.inr continued
    · obtain ⟨rfl, behind⟩ := List.append_eq_nil_iff.mp split.symm
      obtain ⟨rfl, rfl⟩ := List.append_eq_nil_iff.mp behind
      exact Or.inl (by simpa using matched)
  · rintro (matched | continued)
    · exact Or.inr ⟨[], [], [], rfl, by simpa using matched⟩
    · exact Or.inl ⟨[], [], rfl, continued⟩

/-- A way ends right here, or it ends in what follows once the marks have moved over the next
character. -/
theorem ends_cons_iff {expression : Marked} {before rest : Text} {c : Char} :
    expression.Ends before (c :: rest) ↔
      expression.Matches before [] (c :: rest) ∨ expression.Continues before [] (c :: rest) ∨
        (advance before.getLast? c true expression).Ends (before ++ [c]) rest := by
  constructor
  · rintro (⟨within, after, split, continued⟩ | ⟨gap, within, after, split, matched⟩)
    · cases within with
      | nil =>
          cases split
          exact Or.inr (Or.inl continued)
      | cons head within =>
          obtain ⟨rfl, rfl⟩ := List.cons.inj split
          exact Or.inr (Or.inr (Or.inl
            ⟨within, after, rfl, continues_advance.mpr (Or.inl continued)⟩))
    · cases gap with
      | cons head gap =>
          obtain ⟨rfl, rfl⟩ := List.cons.inj split
          refine Or.inr (Or.inr (Or.inr ⟨gap, within, after, rfl, ?_⟩))
          rw [matches_advance]
          simpa using matched
      | nil =>
          rw [List.append_nil] at matched
          cases within with
          | nil =>
              cases split
              exact Or.inl matched
          | cons head within =>
              obtain ⟨rfl, rfl⟩ := List.cons.inj split
              exact Or.inr (Or.inr (Or.inl
                ⟨within, after, rfl, continues_advance.mpr (Or.inr ⟨rfl, matched⟩)⟩))
  · rintro (matched | continued | ⟨within, after, rfl, moved⟩ | ⟨gap, within, after, rfl, moved⟩)
    · exact Or.inr ⟨[], [], c :: rest, rfl, by simpa using matched⟩
    · exact Or.inl ⟨[], c :: rest, rfl, continued⟩
    · rcases continues_advance.mp moved with continued | ⟨_, matched⟩
      · exact Or.inl ⟨c :: within, after, rfl, continued⟩
      · exact Or.inr ⟨[], c :: within, after, rfl, by simpa using matched⟩
    · rw [matches_advance] at moved
      exact Or.inr ⟨c :: gap, within, after, rfl, by simpa using moved⟩

/-- The search answers exactly whether some way ends in the text. -/
theorem search_iff {expression : Marked} (before : Text) {text : Text} :
    search before.getLast? expression text = true ↔ expression.Ends before text := by
  -- Each step searches for the expression with its marks moved, so the induction is for all marks.
  induction text generalizing expression before with
  | nil =>
      have begun : nullable before.getLast? none expression = true ↔
          expression.Matches before [] [] := nullable_iff before []
      have ended : finished before.getLast? none expression = true ↔
          expression.Continues before [] [] := finished_iff before []
      rw [search, Bool.or_eq_true, begun, ended, ends_nil_iff]
  | cons c rest ih =>
      have begun : nullable before.getLast? (some c) expression = true ↔
          expression.Matches before [] (c :: rest) := nullable_iff before (c :: rest)
      have ended : finished before.getLast? (some c) expression = true ↔
          expression.Continues before [] (c :: rest) := finished_iff before (c :: rest)
      have later : search (some c) (advance before.getLast? c true expression) rest = true ↔
          (advance before.getLast? c true expression).Ends (before ++ [c]) rest := by
        rw [← ih, List.getLast?_concat]
      rw [search, Bool.or_eq_true, Bool.or_eq_true, begun, ended, later, ends_cons_iff, or_assoc]

end ConditionalText.Marked
