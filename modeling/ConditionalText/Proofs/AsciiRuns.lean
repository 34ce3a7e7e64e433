import ConditionalText.Text.Basic
import Mathlib

/-!
The ASCII classes and the case of letters, and longest runs of characters of one class. A run is
determined by the character behind it, so a text has one reading as a run and a rest.
-/

namespace ConditionalText

theorem isAsciiAlphanumeric_toLower (c : Char) :
    isAsciiAlphanumeric c.toLower = isAsciiAlphanumeric c := by
  by_cases upper : c.isUpper
  · have letter : c.isAlpha := by simp [Char.isAlpha, upper]
    simp [isAsciiAlphanumeric, Char.isAlphanum, letter]
  · rw [Char.toLower_eq_of_not_isUpper upper]

theorem toLower_eq_iff_of_not_alphanumeric {c w : Char} (other : isAsciiAlphanumeric w = false) :
    c.toLower = w ↔ c = w := by
  by_cases upper : c.isUpper
  · have letter : isAsciiAlphanumeric c = true := by
      simp [isAsciiAlphanumeric, Char.isAlphanum, Char.isAlpha, upper]
    constructor
    · rintro rfl
      rw [isAsciiAlphanumeric_toLower, letter] at other
      contradiction
    · rintro rfl
      rw [letter] at other
      contradiction
  · rw [Char.toLower_eq_of_not_isUpper upper]

theorem isBlank_iff {c : Char} :
    isBlank c = true ↔
      c = '\t' ∨ c = '\n' ∨ c = '\x0b' ∨ c = '\x0c' ∨ c = '\r' ∨ c = ' ' := by
  simp only [isBlank, Bool.or_eq_true, beq_iff_eq, Bool.and_eq_true, decide_eq_true_eq,
    Char.le_def, UInt32.le_iff_toNat_le, Char.ext_iff, UInt32.ext_iff]
  simp
  omega

theorem not_alphanumeric_of_isBlank {c : Char} (blank : isBlank c = true) :
    isAsciiAlphanumeric c = false := by
  rcases isBlank_iff.mp blank with rfl | rfl | rfl | rfl | rfl | rfl <;> decide

theorem not_isBlank_of_alphanumeric {c : Char} (letter : isAsciiAlphanumeric c = true) :
    isBlank c = false := by
  cases blank : isBlank c with
  | false => rfl
  | true =>
      rw [not_alphanumeric_of_isBlank blank] at letter
      contradiction

namespace Text

theorem alphanumeric_of_lowerAscii {written word : Text} (same : written.lowerAscii = word)
    (alphanumeric : ∀ c ∈ word, isAsciiAlphanumeric c = true) :
    ∀ c ∈ written, isAsciiAlphanumeric c = true := by
  intro c member
  rw [← isAsciiAlphanumeric_toLower]
  apply alphanumeric
  rw [← same]
  exact List.mem_map_of_mem member

theorem append_of_mark_notMem {mark : Char} {front after left right : Text}
    (absent : mark ∉ front) (same : front ++ after = left ++ mark :: right) :
    ∃ gap, left = front ++ gap ∧ after = gap ++ mark :: right := by
  rcases List.append_eq_append_iff.mp same with ⟨gap, reached, behind⟩ | ⟨beyond, whole, behind⟩
  · exact ⟨gap, reached, behind⟩
  · cases beyond with
    | nil => exact ⟨[], by simpa using whole.symm, by simpa using behind.symm⟩
    | cons c beyond =>
        simp only [List.cons_append, List.cons.injEq] at behind
        obtain ⟨rfl, _⟩ := behind
        exact absurd (by simp [whole]) absent

section Runs

variable {p : Char → Bool} {run rest : Text}

/-- The text does not go on with a character of the class. -/
def StopsBefore (p : Char → Bool) (rest : Text) : Prop :=
  ∀ c ∈ rest.head?, p c = false

@[simp] theorem stopsBefore_cons {c : Char} : StopsBefore p (c :: rest) ↔ p c = false := by
  simp [StopsBefore]

theorem ne_mark {c mark : Char} (inside : p c = true) (outside : p mark = false) : c ≠ mark := by
  rintro rfl
  rw [inside] at outside
  contradiction

theorem notMem_marks {c : Char} {marks : List Char} (inside : p c = true)
    (outside : marks.any p = false) : c ∉ marks := by
  intro member
  exact List.any_eq_false.mp outside c member inside

theorem mark_notMem {mark : Char} (all : ∀ c ∈ run, p c = true) (outside : p mark = false) :
    mark ∉ run := by
  intro member
  have inside := all mark member
  rw [outside] at inside
  contradiction

theorem all_takeWhile (p : Char → Bool) (text : Text) : ∀ c ∈ text.takeWhile p, p c = true :=
  fun _ member => List.mem_takeWhile_imp member

theorem takeWhile_run (all : ∀ c ∈ run, p c = true) (stops : StopsBefore p rest) :
    (run ++ rest).takeWhile p = run := by
  rw [List.takeWhile_append_of_pos all]
  cases rest with
  | nil => simp
  | cons c rest => simp [stopsBefore_cons.mp stops]

theorem dropWhile_run (all : ∀ c ∈ run, p c = true) (stops : StopsBefore p rest) :
    (run ++ rest).dropWhile p = rest := by
  rw [List.dropWhile_append_of_pos all]
  cases rest with
  | nil => rfl
  | cons c rest => simp [stopsBefore_cons.mp stops]

theorem stopsBefore_dropWhile (p : Char → Bool) (text : Text) :
    StopsBefore p (text.dropWhile p) := by
  intro c starts
  cases dropped : text.dropWhile p with
  | nil => simp [dropped] at starts
  | cons head tail =>
      have stopped := List.head_dropWhile_not p (l := text) (by simp [dropped])
      simp only [dropped, List.head?_cons, Option.mem_def, Option.some.injEq,
        List.head_cons] at starts stopped
      rw [← starts]
      simpa using stopped

/-- Of two readings of a text as a longest run and a rest, one is the other. -/
theorem run_unique {otherRun otherRest : Text} (all : ∀ c ∈ run, p c = true)
    (stops : StopsBefore p rest) (otherAll : ∀ c ∈ otherRun, p c = true)
    (otherStops : StopsBefore p otherRest) (same : run ++ rest = otherRun ++ otherRest) :
    run = otherRun ∧ rest = otherRest := by
  constructor
  · rw [← takeWhile_run all stops, same, takeWhile_run otherAll otherStops]
  · rw [← dropWhile_run all stops, same, dropWhile_run otherAll otherStops]

end Runs

end Text

end ConditionalText
