import ConditionalText.Json.Number
import ConditionalText.Proofs.AsciiRuns
import ConditionalText.Unicode.RangeTable

/-!
Numbers as decimal digits: the digits of a number give it back, and no zero stands before others.
A hexadecimal digit gives back its number, too.
-/

namespace ConditionalText

namespace Text

theorem ofNat_ne_nil (n : Nat) : ofNat n ≠ [] :=
  Nat.toDigits_ne_nil

theorem isDigit_of_mem_ofNat {n : Nat} : ∀ c ∈ ofNat n, c.isDigit = true := by
  intro c member
  exact Nat.isDigit_of_mem_toDigits (by decide) (by decide) member

theorem ofNat_starts (n : Nat) : ∃ c rest, ofNat n = c :: rest ∧ c.isDigit = true := by
  obtain ⟨c, rest, same⟩ := List.exists_cons_of_ne_nil (ofNat_ne_nil n)
  exact ⟨c, rest, same, isDigit_of_mem_ofNat c (by rw [same]; exact List.mem_cons_self ..)⟩

end Text

theorem Json.decimalValue_ofNat (n : Nat) : decimalValue (Text.ofNat n) = n := by
  have valued := Nat.ofDigitChars_ten_toDigits (n := n)
  rw [Nat.ofDigitChars_eq_foldl] at valued
  unfold decimalValue Text.ofNat
  simpa only [Nat.mul_comm] using valued

theorem Text.eq_nil_of_ofNat_eq_zero_cons {n : Nat} {rest : Text}
    (starts : ofNat n = '0' :: rest) : rest = [] := by
  induction n using Nat.strong_induction_on generalizing rest with
  | _ n ih =>
      unfold ofNat at starts ih
      by_cases small : n < 10
      · rw [Nat.toDigits_of_lt_base small, List.cons.injEq] at starts
        exact starts.2.symm
      · rw [Nat.toDigits_of_base_le (by decide) (Nat.le_of_not_lt small)] at starts
        obtain ⟨c, front, same⟩ := List.exists_cons_of_ne_nil
          (Nat.toDigits_ne_nil (b := 10) (n := n / 10))
        rw [same, List.cons_append, List.cons.injEq] at starts
        obtain ⟨rfl, _⟩ := starts
        have alone := ih (n / 10) (by omega) same
        have zero := Json.decimalValue_ofNat (n / 10)
        unfold ofNat at zero
        rw [same, alone] at zero
        have impossible : n / 10 = 0 := by rw [← zero]; decide
        omega

theorem Unicode.hexDigit?_of_isDigit {c : Char} (digit : c.isDigit = true) :
    hexDigit? c = some (c.toNat - '0'.toNat) := by
  unfold hexDigit?
  rw [Char.isDigit] at digit
  simp only [Bool.and_eq_true, decide_eq_true_eq] at digit
  exact if_pos digit

theorem Unicode.hexDigit?_digitChar {n : Nat} (small : n < 16) :
    hexDigit? (Nat.digitChar n) = some n := by
  have checked : ∀ n < 16, hexDigit? (Nat.digitChar n) = some n := by decide
  exact checked n small

end ConditionalText
