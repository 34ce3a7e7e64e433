import ConditionalText.Pattern.Tree

/-!
Stretches of text one behind the other. What counts as a match depends on the characters around a
stretch, so every law here carries what stands before and after. Repetition is settled here once:
rounds that take no character can be left out, and of what can only be empty one round is enough.
-/

namespace ConditionalText

/-- Which stretches of a text count. The arguments are what stands before a stretch, the stretch
itself, and what stands after it. -/
abbrev Stretches := Text → Text → Text → Prop

namespace Stretches

def nothing : Stretches :=
  fun _ within _ => within = []

def never : Stretches :=
  fun _ _ _ => False

def either (left right : Stretches) : Stretches :=
  fun before within after => left before within after ∨ right before within after

/-- A stretch of the first kind and right behind it one of the second. -/
def followedBy (first second : Stretches) : Stretches :=
  fun before within after =>
    ∃ left right, within = left ++ right ∧ first before left (right ++ after) ∧
      second (before ++ left) right after

/-- As `followedBy`, where the first stretch also takes the character `c` in front of `within`. -/
def takesThen (c : Char) (first second : Stretches) : Stretches :=
  fun before within after =>
    ∃ left right, within = left ++ right ∧ first before (c :: left) (right ++ after) ∧
      second (before ++ c :: left) right after

def anyTimes (one : Stretches) : Stretches :=
  fun before within after => ∃ n, Pattern.Times one n before within after

def atMost (one : Stretches) (most : Nat) : Stretches :=
  fun before within after => ∃ n, n ≤ most ∧ Pattern.Times one n before within after

def atLeast (one : Stretches) (least : Nat) : Stretches :=
  fun before within after => ∃ n, least ≤ n ∧ Pattern.Times one n before within after

/-- Every stretch that counts is empty. -/
def OnlyEmpty (one : Stretches) : Prop :=
  ∀ before within after, one before within after → within = []

section

variable {one first second third : Stretches} {before within after : Text} {c : Char}

theorem times_zero : Pattern.Times one 0 = nothing := rfl

theorem times_succ (n : Nat) : Pattern.Times one (n + 1) = one.followedBy (Pattern.Times one n) := rfl

theorem nothing_followedBy : nothing.followedBy second = second := by
  funext before within after
  apply propext
  constructor
  · rintro ⟨left, right, rfl, empty, later⟩
    cases empty
    simpa using later
  · intro later
    exact ⟨[], within, rfl, rfl, by simpa using later⟩

theorem followedBy_nothing : first.followedBy nothing = first := by
  funext before within after
  apply propext
  constructor
  · rintro ⟨left, right, rfl, earlier, empty⟩
    cases empty
    simpa using earlier
  · intro earlier
    exact ⟨within, [], by simp, by simpa using earlier, rfl⟩

theorem followedBy_assoc :
    (first.followedBy second).followedBy third = first.followedBy (second.followedBy third) := by
  funext before within after
  apply propext
  constructor
  · rintro ⟨_, right, rfl, ⟨left, middle, rfl, earlier, between⟩, later⟩
    refine ⟨left, middle ++ right, by simp, by simpa using earlier, middle, right, rfl, between, ?_⟩
    simpa using later
  · rintro ⟨left, _, rfl, earlier, middle, right, rfl, between, later⟩
    refine ⟨left ++ middle, right, by simp, ⟨left, middle, rfl, ?_, between⟩, ?_⟩
    · simpa using earlier
    · simpa using later

theorem either_followedBy :
    (first.either second).followedBy third =
      (first.followedBy third).either (second.followedBy third) := by
  funext before within after
  apply propext
  constructor
  · rintro ⟨left, right, rfl, earlier | earlier, later⟩
    · exact Or.inl ⟨left, right, rfl, earlier, later⟩
    · exact Or.inr ⟨left, right, rfl, earlier, later⟩
  · rintro (⟨left, right, rfl, earlier, later⟩ | ⟨left, right, rfl, earlier, later⟩)
    · exact ⟨left, right, rfl, Or.inl earlier, later⟩
    · exact ⟨left, right, rfl, Or.inr earlier, later⟩

theorem followedBy_nil_iff :
    first.followedBy second before [] after ↔ first before [] after ∧ second before [] after := by
  constructor
  · rintro ⟨left, right, split, earlier, later⟩
    obtain ⟨rfl, rfl⟩ := List.append_eq_nil_iff.mp split.symm
    exact ⟨earlier, by simpa using later⟩
  · rintro ⟨earlier, later⟩
    exact ⟨[], [], rfl, earlier, by simpa using later⟩

theorem followedBy_cons_iff :
    first.followedBy second before (c :: within) after ↔
      (first before [] (c :: (within ++ after)) ∧ second before (c :: within) after) ∨
        first.takesThen c second before within after := by
  constructor
  · rintro ⟨left, right, split, earlier, later⟩
    cases left with
    | nil =>
        cases split
        exact Or.inl ⟨earlier, by simpa using later⟩
    | cons head left =>
        simp only [List.cons_append, List.cons.injEq] at split
        obtain ⟨rfl, rfl⟩ := split
        exact Or.inr ⟨left, right, rfl, earlier, later⟩
  · rintro (⟨earlier, later⟩ | ⟨left, right, rfl, earlier, later⟩)
    · exact ⟨[], c :: within, rfl, earlier, by simpa using later⟩
    · exact ⟨c :: left, right, rfl, earlier, later⟩

/-- A step over a character in the first of two stretches: what goes on behind `c` has taken `c` in
one of two ways. -/
theorem followedBy_step_iff {other : Stretches} {enter : Prop} (stepped second : Stretches)
    (within after : Text)
    (step : ∀ left after', stepped (before ++ [c]) left after' ↔
      first before (c :: left) after' ∨ (enter ∧ other before (c :: left) after')) :
    stepped.followedBy second (before ++ [c]) within after ↔
      first.takesThen c second before within after ∨
        (enter ∧ other.takesThen c second before within after) := by
  constructor
  · rintro ⟨left, right, rfl, earlier, later⟩
    rw [List.append_assoc] at later
    rcases (step left (right ++ after)).mp earlier with went | ⟨entered, went⟩
    · exact Or.inl ⟨left, right, rfl, went, later⟩
    · exact Or.inr ⟨entered, left, right, rfl, went, later⟩
  · rintro (⟨left, right, rfl, went, later⟩ | ⟨entered, left, right, rfl, went, later⟩)
    · exact ⟨left, right, rfl, (step left _).mpr (Or.inl went), by simpa using later⟩
    · exact ⟨left, right, rfl, (step left _).mpr (Or.inr ⟨entered, went⟩), by simpa using later⟩

/-! Repetition -/

theorem times_add (m n : Nat) :
    Pattern.Times one (m + n) = followedBy (Pattern.Times one m) (Pattern.Times one n) := by
  induction m with
  | zero => rw [Nat.zero_add, times_zero, nothing_followedBy]
  | succ m ih => rw [Nat.succ_add, times_succ, ih, times_succ, followedBy_assoc]

theorem anyTimes_nil : one.anyTimes before [] after :=
  ⟨0, rfl⟩

/-- Rounds at the beginning that take no character can be left out: some round takes the first. -/
theorem anyTimes_cons_iff :
    one.anyTimes before (c :: within) after ↔
      one.takesThen c one.anyTimes before within after := by
  constructor
  · rintro ⟨n, rounds⟩
    induction n with
    | zero => cases rounds
    | succ n ih =>
        rw [times_succ, followedBy_cons_iff] at rounds
        rcases rounds with ⟨_, others⟩ | ⟨left, right, split, round, others⟩
        · exact ih others
        · exact ⟨left, right, split, round, n, others⟩
  · rintro ⟨left, right, rfl, round, n, others⟩
    exact ⟨n + 1, followedBy_cons_iff.mpr (Or.inr ⟨left, right, rfl, round, others⟩)⟩

theorem times_followedBy_anyTimes (least : Nat) :
    followedBy (Pattern.Times one least) one.anyTimes = one.atLeast least := by
  funext before within after
  apply propext
  constructor
  · rintro ⟨left, right, rfl, needed, n, others⟩
    refine ⟨least + n, Nat.le_add_right least n, ?_⟩
    rw [times_add]
    exact ⟨left, right, rfl, needed, others⟩
  · rintro ⟨n, enough, rounds⟩
    obtain ⟨others, rfl⟩ := Nat.exists_eq_add_of_le enough
    rw [times_add] at rounds
    obtain ⟨left, right, rfl, needed, further⟩ := rounds
    exact ⟨left, right, rfl, needed, others, further⟩

theorem times_either_nothing (most : Nat) :
    Pattern.Times (one.either nothing) most = one.atMost most := by
  induction most with
  | zero =>
      funext before within after
      apply propext
      constructor
      · intro empty
        exact ⟨0, Nat.le_refl 0, empty⟩
      · rintro ⟨n, few, rounds⟩
        cases Nat.le_zero.mp few
        exact rounds
  | succ most ih =>
      rw [times_succ, ih, either_followedBy, nothing_followedBy]
      funext before within after
      apply propext
      constructor
      · rintro (⟨left, right, rfl, round, n, few, others⟩ | ⟨n, few, rounds⟩)
        · exact ⟨n + 1, Nat.succ_le_succ few, left, right, rfl, round, others⟩
        · exact ⟨n, Nat.le_succ_of_le few, rounds⟩
      · rintro ⟨n, few, rounds⟩
        cases n with
        | zero => exact Or.inr ⟨0, Nat.zero_le most, rounds⟩
        | succ n =>
            obtain ⟨left, right, split, round, others⟩ := rounds
            exact Or.inl ⟨left, right, split, round, n, Nat.le_of_succ_le_succ few, others⟩

theorem OnlyEmpty.times_succ (empty : one.OnlyEmpty) (n : Nat) :
    Pattern.Times one (n + 1) = one := by
  induction n with
  | zero => rw [Stretches.times_succ, times_zero, followedBy_nothing]
  | succ n ih =>
      rw [Stretches.times_succ, ih]
      funext before within after
      apply propext
      constructor
      · rintro ⟨left, right, rfl, round, others⟩
        cases empty _ _ _ round
        simpa using others
      · intro round
        cases empty _ _ _ round
        exact followedBy_nil_iff.mpr ⟨round, round⟩

theorem OnlyEmpty.times (empty : one.OnlyEmpty) (n : Nat) :
    Stretches.OnlyEmpty (Pattern.Times one n) := by
  cases n with
  | zero => exact fun _ _ _ => id
  | succ n =>
      rw [empty.times_succ]
      exact empty

end

end Stretches

end ConditionalText
