import ConditionalText.Pattern.Footprint
import ConditionalText.Proofs.MarkedSearch
import Mathlib

/-!
Testing a user agent against a pattern tells whether the pattern occurs in it, no more and no less.
The expression that is searched for matches what the pattern matches, although it writes out counted
repetitions and leaves out rounds that could only be empty. What a pattern prefers, the more or
the fewer rounds, the left or the right branch, is nothing that the answer could show.
-/

namespace ConditionalText

namespace Pattern

theorem onlyEmpty_matches {pattern : Pattern} (empty : pattern.onlyEmpty = true) :
    Stretches.OnlyEmpty pattern.Matches := by
  intro before within after matched
  induction pattern generalizing before within after with
  | empty => exact matched
  | set chars => cases empty
  | assertion condition => exact matched.1
  | group inner ih => exact ih empty before within after matched
  | concat first second ihFirst ihSecond =>
      obtain ⟨emptyFirst, emptySecond⟩ := Bool.and_eq_true_iff.mp empty
      obtain ⟨left, right, rfl, earlier, later⟩ := matched
      rw [ihFirst emptyFirst _ _ _ earlier, ihSecond emptySecond _ _ _ later, List.append_nil]
  | alternation left right ihLeft ihRight =>
      obtain ⟨emptyLeft, emptyRight⟩ := Bool.and_eq_true_iff.mp empty
      rcases matched with matched | matched
      · exact ihLeft emptyLeft before within after matched
      · exact ihRight emptyRight before within after matched
  | repetition inner least extra greedy ih =>
      obtain ⟨n, _, few, rounds⟩ := matched
      rw [onlyEmpty, Bool.or_eq_true, Bool.and_eq_true, beq_iff_eq, beq_iff_eq] at empty
      rcases empty with emptyInner | ⟨rfl, rfl⟩
      · exact Stretches.OnlyEmpty.times (ih emptyInner) n before within after rounds
      · cases Nat.le_zero.mp (few 0 rfl)
        exact rounds

/-! Repetitions as the search has them -/

section

variable {inner : Pattern}

theorem matches_copies (inner rest : Marked) (count : Nat) :
    (inner.copies count rest).Matches =
      Stretches.followedBy (Times inner.Matches count) rest.Matches := by
  induction count with
  | zero => exact Stretches.nothing_followedBy.symm
  | succ count ih =>
      rw [Marked.copies, Marked.Matches, ih, Stretches.times_succ, Stretches.followedBy_assoc]

theorem repetition_of_onlyEmpty_inner (empty : inner.onlyEmpty = true) {least : Nat}
    (needed : least ≠ 0) (extra : Option Nat) (greedy : Bool) :
    (repetition inner least extra greedy).Matches = inner.Matches := by
  funext before within after
  apply propext
  obtain ⟨least, rfl⟩ := Nat.exists_eq_succ_of_ne_zero needed
  have once := (onlyEmpty_matches empty).times_succ
  constructor
  · rintro ⟨n, enough, _, rounds⟩
    cases n with
    | zero => exact absurd enough (Nat.not_succ_le_zero least)
    | succ n =>
        rw [once] at rounds
        exact rounds
  · intro round
    refine ⟨least + 1, Nat.le_refl _, fun more _ => Nat.le_add_right _ more, ?_⟩
    rw [once]
    exact round

theorem repetition_of_no_round (extra : Option Nat) (greedy : Bool)
    (idle : inner.onlyEmpty = true ∨ extra = some 0) :
    (repetition inner 0 extra greedy).Matches = Stretches.nothing := by
  funext before within after
  apply propext
  constructor
  · rintro ⟨n, _, few, rounds⟩
    rcases idle with empty | rfl
    · exact (onlyEmpty_matches empty).times n before within after rounds
    · cases Nat.le_zero.mp (few 0 rfl)
      exact rounds
  · intro empty
    exact ⟨0, Nat.le_refl 0, fun more _ => Nat.zero_le _, empty⟩

theorem repetition_unbounded (least : Nat) (greedy : Bool) :
    (repetition inner least none greedy).Matches = Stretches.atLeast inner.Matches least := by
  funext before within after
  simp [Matches, Stretches.atLeast]

theorem repetition_bounded (least more : Nat) (greedy : Bool) :
    (repetition inner least (some more) greedy).Matches =
      Stretches.followedBy (Times inner.Matches least) (Stretches.atMost inner.Matches more) := by
  funext before within after
  apply propext
  constructor
  · rintro ⟨n, enough, few, rounds⟩
    obtain ⟨further, rfl⟩ := Nat.exists_eq_add_of_le enough
    have bound := few more rfl
    rw [Stretches.times_add] at rounds
    obtain ⟨left, right, rfl, needed, others⟩ := rounds
    exact ⟨left, right, rfl, needed, further, by omega, others⟩
  · rintro ⟨left, right, rfl, needed, further, few, others⟩
    refine ⟨least + further, Nat.le_add_right _ _, ?_, ?_⟩
    · intro most same
      cases same
      exact Nat.add_le_add_left few least
    · rw [Stretches.times_add]
      exact ⟨left, right, rfl, needed, others⟩

end

theorem unfold_repetition (inner : Pattern) (least : Nat) (extra : Option Nat) (greedy : Bool) :
    (repetition inner least extra greedy).unfold =
      if least = 0 ∧ (inner.onlyEmpty ∨ extra = some 0) then .empty
      else if inner.onlyEmpty then inner.unfold
      else match extra with
        | none => inner.unfold.copies least (.star inner.unfold)
        | some more => inner.unfold.copies least (inner.unfold.optional.copies more .empty) := rfl

/-- The expression matches what the pattern matches. -/
theorem matches_unfold (pattern : Pattern) : pattern.unfold.Matches = pattern.Matches := by
  induction pattern with
  | empty => rfl
  | set chars => rfl
  | assertion condition => rfl
  | group inner ih => exact ih
  | concat first second ihFirst ihSecond =>
      rw [unfold, Marked.Matches, ihFirst, ihSecond]
      rfl
  | alternation left right ihLeft ihRight =>
      rw [unfold, Marked.Matches, ihLeft, ihRight]
      rfl
  | repetition inner least extra greedy ih =>
      rw [unfold_repetition]
      split
      · rename_i idle
        obtain ⟨rfl, idle⟩ := idle
        exact (repetition_of_no_round extra greedy idle).symm
      · rename_i busy
        split
        · rename_i empty
          rw [ih, repetition_of_onlyEmpty_inner empty]
          intro zero
          exact busy ⟨zero, Or.inl empty⟩
        · cases extra with
          | none =>
              rw [matches_copies, Marked.Matches, ih, Stretches.times_followedBy_anyTimes,
                repetition_unbounded]
          | some more =>
              have optional : inner.unfold.optional.Matches =
                  Stretches.either inner.Matches Stretches.nothing := by
                rw [Marked.optional, Marked.Matches, ih]
                rfl
              have nothing : Marked.empty.Matches = Stretches.nothing := rfl
              rw [matches_copies, matches_copies, ih, optional, nothing,
                Stretches.followedBy_nothing, Stretches.times_either_nothing, repetition_bounded]

/-! No marks are set before the search begins. -/

theorem continues_copies {inner rest : Marked} (inside : inner.Continues = Stretches.never)
    (behind : rest.Continues = Stretches.never) (count : Nat) :
    (inner.copies count rest).Continues = Stretches.never := by
  induction count with
  | zero => exact behind
  | succ count ih =>
      rw [Marked.copies, Marked.Continues, ih, inside]
      funext before within after
      simp [Stretches.either, Stretches.followedBy, Stretches.never]

theorem continues_unfold (pattern : Pattern) : pattern.unfold.Continues = Stretches.never := by
  induction pattern with
  | empty => rfl
  | set chars =>
      funext before within after
      simp [unfold, Marked.Continues, Stretches.never]
  | assertion condition => rfl
  | group inner ih => exact ih
  | concat first second ihFirst ihSecond =>
      rw [unfold, Marked.Continues, ihFirst, ihSecond]
      funext before within after
      simp [Stretches.either, Stretches.followedBy, Stretches.never]
  | alternation left right ihLeft ihRight =>
      rw [unfold, Marked.Continues, ihLeft, ihRight]
      funext before within after
      simp [Stretches.either, Stretches.never]
  | repetition inner least extra greedy ih =>
      have star : (Marked.star inner.unfold).Continues = Stretches.never := by
        rw [Marked.Continues, ih]
        funext before within after
        simp [Stretches.followedBy, Stretches.never]
      have optional : inner.unfold.optional.Continues = Stretches.never := by
        rw [Marked.optional, Marked.Continues, ih]
        funext before within after
        simp [Marked.Continues, Stretches.either, Stretches.never]
      rw [unfold_repetition]
      split
      · rfl
      · split
        · exact ih
        · cases extra with
          | none => exact continues_copies ih star least
          | some more => exact continues_copies ih (continues_copies optional rfl more) least

theorem occursIn_iff_occurs (pattern : Pattern) (text : Text) :
    pattern.occursIn text = true ↔ pattern.Occurs text := by
  have searched : pattern.occursIn text = true ↔ pattern.unfold.Ends [] text :=
    Marked.search_iff []
  rw [searched, Marked.Ends, continues_unfold, matches_unfold, Occurs]
  constructor
  · rintro (⟨_, _, _, impossible⟩ | ⟨gap, within, after, rfl, matched⟩)
    · exact impossible.elim
    · exact ⟨gap, within, after, by simp, matched⟩
  · rintro ⟨before, within, after, rfl, matched⟩
    exact Or.inr ⟨before, within, after, by simp, matched⟩

/-! Preferences -/

/-- The patterns differ at most in the order and grouping of alternatives and in the greed of
repetitions. -/
inductive SameChoices : Pattern → Pattern → Prop where
  | refl (pattern : Pattern) : SameChoices pattern pattern
  | symm {pattern other : Pattern} : SameChoices pattern other → SameChoices other pattern
  | trans {pattern middle other : Pattern} :
      SameChoices pattern middle → SameChoices middle other → SameChoices pattern other
  | swap (left right : Pattern) : SameChoices (.alternation left right) (.alternation right left)
  | regroup (left middle right : Pattern) :
      SameChoices (.alternation left (.alternation middle right))
        (.alternation (.alternation left middle) right)
  | group {inner inner' : Pattern} :
      SameChoices inner inner' → SameChoices (.group inner) (.group inner')
  | concat {first first' second second' : Pattern} :
      SameChoices first first' → SameChoices second second' →
        SameChoices (.concat first second) (.concat first' second')
  | alternation {left left' right right' : Pattern} :
      SameChoices left left' → SameChoices right right' →
        SameChoices (.alternation left right) (.alternation left' right')
  | repetition {inner inner' : Pattern} (least : Nat) (extra : Option Nat) (greedy greedy' : Bool) :
      SameChoices inner inner' →
        SameChoices (.repetition inner least extra greedy) (.repetition inner' least extra greedy')

theorem SameChoices.matches_eq {pattern other : Pattern} (same : SameChoices pattern other) :
    pattern.Matches = other.Matches := by
  induction same with
  | refl pattern => rfl
  | symm _ ih => exact ih.symm
  | trans _ _ ih ih' => exact ih.trans ih'
  | swap left right =>
      funext before within after
      exact propext Or.comm
  | regroup left middle right =>
      funext before within after
      exact propext or_assoc.symm
  | group _ ih => exact ih
  | concat _ _ ihFirst ihSecond =>
      funext before within after
      simp only [Matches, ihFirst, ihSecond]
  | alternation _ _ ihLeft ihRight =>
      funext before within after
      simp only [Matches, ihLeft, ihRight]
  | repetition least extra greedy greedy' _ ih =>
      funext before within after
      simp only [Matches, ih]

end Pattern

section

variable [PatternEngine]

theorem agentMatches_of_compile {text userAgent : Text} {sizeLimit : UInt64} {pattern : Pattern}
    (compiled : Pattern.compile text sizeLimit = .ok pattern) :
    agentMatches text userAgent sizeLimit = .ok (pattern.occursIn userAgent) := by
  rw [agentMatches, compiled]

/-- A pattern that can be used matches a user agent exactly if some stretch of it, where it stands, is
one that the pattern describes. The answer is no in all other cases, and it stays the same when
alternatives change places and greedy repetitions become reluctant. -/
theorem agentMatches_iff_occurs {text : Text} {sizeLimit : UInt64} {pattern : Pattern}
    (compiled : Pattern.compile text sizeLimit = .ok pattern) (userAgent : Text) :
    (agentMatches text userAgent sizeLimit = .ok true ↔ pattern.Occurs userAgent) ∧
    (agentMatches text userAgent sizeLimit = .ok false ↔ ¬ pattern.Occurs userAgent) ∧
    ∀ text' sizeLimit' pattern', Pattern.compile text' sizeLimit' = .ok pattern' →
      pattern.SameChoices pattern' →
        agentMatches text' userAgent sizeLimit' = agentMatches text userAgent sizeLimit := by
  rw [agentMatches_of_compile compiled, ← pattern.occursIn_iff_occurs]
  refine ⟨by simp, by simp, ?_⟩
  intro text' sizeLimit' pattern' compiled' same
  have together : pattern'.occursIn userAgent = true ↔ pattern.occursIn userAgent = true := by
    simp only [Pattern.occursIn_iff_occurs, Pattern.Occurs, same.matches_eq]
  rw [agentMatches_of_compile compiled', Bool.eq_iff_iff.mpr together]

end

set_option maxRecDepth 10000 in
/-- A reluctant repetition, counted, of what can match nothing. -/
theorem agentMatches_iff_occurs_reluctant :
    let _engine : PatternEngine := .estimating (fun _ => "regex parse error".toList)
    let text : Text := "(?:a*|^)\x7b2,3\x7d?c$".toList
    let pattern : Pattern :=
      .concat
        (.repetition
          (.alternation (.repetition (.set (.single 'a')) 0 none true) (.assertion .textStart))
          2 (some 1) false)
        (.concat (.set (.single 'c')) (.assertion .textEnd))
    let userAgent : Text := "xaac".toList
    Pattern.compile text 1048576 = .ok pattern ∧
    (agentMatches text userAgent 1048576 = .ok true ↔ pattern.Occurs userAgent) ∧
    (agentMatches text userAgent 1048576 = .ok false ↔ ¬ pattern.Occurs userAgent) ∧
    ∀ text' sizeLimit' pattern', Pattern.compile text' sizeLimit' = .ok pattern' →
      pattern.SameChoices pattern' →
        agentMatches text' userAgent sizeLimit' = agentMatches text userAgent 1048576 := by
  intro _engine text pattern userAgent
  have compiled : Pattern.compile text 1048576 = .ok pattern := by
    subst _engine text pattern
    cbv
  exact ⟨compiled, agentMatches_iff_occurs compiled userAgent⟩

end ConditionalText
