import ConditionalText.Proofs.AsciiRuns

/-!
Texts as the bytes of their UTF-8 form. An ASCII character has one byte, which is its number, and
all bytes of other characters are above those. So an ASCII word stands among the bytes where it
stands among the characters and nowhere else, and letters have their case in the one as in the
other.
-/

namespace ConditionalText

def lowerByte (byte : UInt8) : UInt8 :=
  if 65 ≤ byte ∧ byte ≤ 90 then byte + 32 else byte

/-! Characters -/

theorem utf8EncodeChar_of_ascii {c : Char} (ascii : c.toNat ≤ 127) :
    String.utf8EncodeChar c = [UInt8.ofNat c.toNat] :=
  if_pos ascii

theorem le_ofNat_of_le {value : Nat} (high : 128 ≤ value) (small : value ≤ 255) :
    128 ≤ UInt8.ofNat value := by
  rw [UInt8.le_iff_toNat_le, UInt8.toNat_ofNat', Nat.mod_eq_of_lt (by omega)]
  exact high

theorem le_of_mem_utf8EncodeChar {c : Char} (wide : ¬ c.toNat ≤ 127) :
    ∀ byte ∈ String.utf8EncodeChar c, 128 ≤ byte := by
  intro byte member
  have several : ¬ c.val.toNat ≤ 127 := wide
  rw [String.utf8EncodeChar, if_neg several] at member
  split at member
  · simp only [List.mem_cons, List.not_mem_nil, or_false] at member
    rcases member with rfl | rfl
    all_goals exact le_ofNat_of_le (by omega) (by omega)
  · split at member
    · simp only [List.mem_cons, List.not_mem_nil, or_false] at member
      rcases member with rfl | rfl | rfl
      all_goals exact le_ofNat_of_le (by omega) (by omega)
    · simp only [List.mem_cons, List.not_mem_nil, or_false] at member
      rcases member with rfl | rfl | rfl | rfl
      all_goals exact le_ofNat_of_le (by omega) (by omega)

theorem lowerByte_of_le {byte : UInt8} (high : 128 ≤ byte) : lowerByte byte = byte := by
  apply if_neg
  rintro ⟨_, letter⟩
  exact absurd (UInt8.le_trans high letter) (by decide)

theorem toLower_of_not_ascii {c : Char} (wide : ¬ c.toNat ≤ 127) : c.toLower = c := by
  apply Char.toLower_eq_of_not_isUpper
  intro upper
  have letter : c.val ≤ 90 := (of_decide_eq_true upper).2
  have small : c.toNat ≤ 90 := UInt32.le_iff_toNat_le.mp letter
  omega

theorem lowerByte_ofNat_ascii {c : Char} (ascii : c.toNat ≤ 127) :
    c.toLower.toNat ≤ 127 ∧ lowerByte (UInt8.ofNat c.toNat) = UInt8.ofNat c.toLower.toNat := by
  have checked : ∀ n : Fin 128, (Char.ofNat n).toLower.toNat ≤ 127 ∧
      lowerByte (UInt8.ofNat n) = UInt8.ofNat (Char.ofNat n).toLower.toNat := by decide
  have here := checked ⟨c.toNat, by omega⟩
  rwa [Char.ofNat_toNat] at here

theorem map_lowerByte_utf8EncodeChar (c : Char) :
    (String.utf8EncodeChar c).map lowerByte = String.utf8EncodeChar c.toLower := by
  by_cases ascii : c.toNat ≤ 127
  · obtain ⟨ascii', lowered⟩ := lowerByte_ofNat_ascii ascii
    rw [utf8EncodeChar_of_ascii ascii, utf8EncodeChar_of_ascii ascii', List.map_singleton, lowered]
  · rw [toLower_of_not_ascii ascii]
    have untouched : ∀ byte ∈ String.utf8EncodeChar c, lowerByte byte = id byte :=
      fun byte member => lowerByte_of_le (le_of_mem_utf8EncodeChar ascii byte member)
    rw [List.map_congr_left untouched, List.map_id]

theorem ofNat_ascii_lt {w : Char} (ascii : w.toNat ≤ 127) : UInt8.ofNat w.toNat < 128 := by
  rw [UInt8.lt_iff_toNat_lt, UInt8.toNat_ofNat', Nat.mod_eq_of_lt (by omega)]
  exact Nat.lt_succ_of_le ascii

theorem ofNat_notMem_utf8EncodeChar {c w : Char} (ascii : w.toNat ≤ 127)
    (wide : ¬ c.toNat ≤ 127) : UInt8.ofNat w.toNat ∉ String.utf8EncodeChar c := by
  intro member
  have high := le_of_mem_utf8EncodeChar wide _ member
  exact absurd (ofNat_ascii_lt ascii) (UInt8.not_lt.mpr high)

theorem ofNat_eq_ofNat_iff {c w : Char} (ascii : w.toNat ≤ 127) (ascii' : c.toNat ≤ 127) :
    UInt8.ofNat w.toNat = UInt8.ofNat c.toNat ↔ w = c := by
  constructor
  · intro same
    have numbers := congrArg UInt8.toNat same
    rw [UInt8.toNat_ofNat', UInt8.toNat_ofNat', Nat.mod_eq_of_lt (by omega),
      Nat.mod_eq_of_lt (by omega)] at numbers
    rw [← Char.ofNat_toNat w, numbers, Char.ofNat_toNat]
  · rintro rfl
    rfl

/-- The byte of an ASCII character begins the bytes of that character and of no other. -/
theorem cons_prefix_utf8EncodeChar_append_iff {c w : Char} {bytes rest : List UInt8}
    (ascii : w.toNat ≤ 127) :
    UInt8.ofNat w.toNat :: bytes <+: String.utf8EncodeChar c ++ rest ↔
      w = c ∧ bytes <+: rest := by
  by_cases ascii' : c.toNat ≤ 127
  · rw [utf8EncodeChar_of_ascii ascii', List.singleton_append, List.cons_prefix_cons,
      ofNat_eq_ofNat_iff ascii ascii']
  · have absent := ofNat_notMem_utf8EncodeChar ascii ascii'
    constructor
    · intro starts
      cases encoded : String.utf8EncodeChar c with
      | nil => exact absurd encoded String.utf8EncodeChar_ne_nil
      | cons byte others =>
          rw [encoded, List.cons_append, List.cons_prefix_cons] at starts
          rw [encoded, starts.1] at absent
          exact absurd (List.mem_cons_self ..) absent
    · rintro ⟨rfl, _⟩
      exact absurd ascii ascii'

/-- No byte but the first of a character is that of an ASCII character. -/
theorem ofNat_notMem_tail {c w : Char} {byte : UInt8} {others : List UInt8}
    (ascii : w.toNat ≤ 127) (encoded : String.utf8EncodeChar c = byte :: others) :
    UInt8.ofNat w.toNat ∉ others := by
  by_cases ascii' : c.toNat ≤ 127
  · rw [utf8EncodeChar_of_ascii ascii', List.cons.injEq] at encoded
    rw [← encoded.2]
    exact List.not_mem_nil
  · have absent := ofNat_notMem_utf8EncodeChar ascii ascii'
    rw [encoded] at absent
    exact fun member => absent (List.mem_cons_of_mem _ member)

theorem cons_infix_append_iff {first : UInt8} {others front rest : List UInt8}
    (absent : first ∉ front) :
    first :: others <:+: front ++ rest ↔ first :: others <:+: rest := by
  induction front with
  | nil => rfl
  | cons byte front ih =>
      rw [List.mem_cons, not_or] at absent
      rw [List.cons_append, List.infix_cons_iff, ih absent.2, List.cons_prefix_cons]
      simp [absent.1]

namespace Text

def utf8Bytes (text : Text) : List UInt8 :=
  text.flatMap String.utf8EncodeChar

@[simp] theorem utf8Bytes_nil : utf8Bytes [] = [] := rfl

@[simp] theorem utf8Bytes_cons (c : Char) (text : Text) :
    utf8Bytes (c :: text) = String.utf8EncodeChar c ++ utf8Bytes text := rfl

theorem map_lowerByte_utf8Bytes (text : Text) :
    text.utf8Bytes.map lowerByte = text.lowerAscii.utf8Bytes := by
  induction text with
  | nil => rfl
  | cons c text ih =>
      rw [utf8Bytes_cons, List.map_append, map_lowerByte_utf8EncodeChar, ih]
      rfl

/-! ASCII words -/

theorem prefix_utf8Bytes_iff {word text : Text} (ascii : ∀ c ∈ word, c.toNat ≤ 127) :
    word.utf8Bytes <+: text.utf8Bytes ↔ word <+: text := by
  induction word generalizing text with
  | nil => simp
  | cons w word ih =>
      have narrow := ascii w (List.mem_cons_self ..)
      have ascii' : ∀ c ∈ word, c.toNat ≤ 127 :=
        fun c member => ascii c (List.mem_cons_of_mem _ member)
      rw [utf8Bytes_cons, utf8EncodeChar_of_ascii narrow, List.singleton_append]
      cases text with
      | nil => simp
      | cons c text =>
          rw [utf8Bytes_cons, cons_prefix_utf8EncodeChar_append_iff narrow, ih ascii',
            List.cons_prefix_cons]

/-- An ASCII word stands among the bytes of a text exactly if it stands in the text. -/
theorem infix_utf8Bytes_iff {w : Char} {word text : Text}
    (ascii : ∀ c ∈ w :: word, c.toNat ≤ 127) :
    utf8Bytes (w :: word) <:+: text.utf8Bytes ↔ w :: word <:+: text := by
  have narrow := ascii w (List.mem_cons_self ..)
  have encoded : utf8Bytes (w :: word) = UInt8.ofNat w.toNat :: utf8Bytes word := by
    rw [utf8Bytes_cons, utf8EncodeChar_of_ascii narrow, List.singleton_append]
  induction text with
  | nil => simp [encoded]
  | cons c text ih =>
      have first : utf8Bytes (w :: word) <+: utf8Bytes (c :: text) ↔ w :: word <+: c :: text :=
        prefix_utf8Bytes_iff ascii
      rw [List.infix_cons_iff, ih.symm, first.symm, encoded, utf8Bytes_cons]
      cases bytes : String.utf8EncodeChar c with
      | nil => exact absurd bytes String.utf8EncodeChar_ne_nil
      | cons byte others =>
          rw [List.cons_append, List.infix_cons_iff,
            cons_infix_append_iff (ofNat_notMem_tail narrow bytes)]

end Text

end ConditionalText
