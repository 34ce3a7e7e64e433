import ConditionalText.Proofs.JsonText
import ConditionalText.Toml.Scalar

/-!
Strings and natural numbers as they are written on a line of a TOML text, and that they are read back
whatever comes on the lines behind.
-/

namespace ConditionalText.Toml

def escapeChar (c : Char) : Text :=
  if c = '\x7f' then ['\\', 'u'] ++ Json.controlDigits c else Json.escapeChar c

def renderString (text : Text) : Text :=
  '"' :: text.flatMap escapeChar ++ ['"']

inductive Scalar where
  | string (value : Text)
  | integer (value : Nat)
  deriving Repr, DecidableEq

namespace Scalar

def render : Scalar → Text
  | string value => renderString value
  | integer value => Text.ofNat value

def node : Scalar → Node
  | string value => .string value
  | integer value => .integer value

def Fits : Scalar → Prop
  | string _ => True
  | integer value => value < 0x8000000000000000

end Scalar

/-! Strings -/

theorem numbered?_controlDigits {c : Char} (short : c.toNat < 65536) :
    numbered? (Json.controlDigits c) = some c := by
  have valued : Unicode.hexValue (Json.controlDigits c) = c.toNat := by
    simp only [Unicode.hexValue, Json.controlDigits, List.foldl_cons, List.foldl_nil,
      Json.hexDigit?_controlDigit, Option.getD_some]
    omega
  have readable : (Json.controlDigits c).all (fun c => (Unicode.hexDigit? c).isSome) = true := by
    simp [Json.controlDigits, Json.hexDigit?_controlDigit]
  unfold numbered?
  rw [valued, if_pos ⟨readable, c.valid⟩, Char.ofNat_toNat]

theorem basicString?_controlDigits {c : Char} (short : c.toNat < 65536) (rest : Text) :
    basicString? (['\\', 'u'] ++ Json.controlDigits c ++ rest) = prepend c (basicString? rest) := by
  have numbered := numbered?_controlDigits short
  unfold Json.controlDigits at numbered ⊢
  simp [basicString?, numbered]

theorem unescape?_of_mem_escapeLetters {letter : Char} (listed : letter ∈ Json.escapeLetters) :
    unescape? letter = Json.unescape? letter := by
  simp only [Json.escapeLetters, List.mem_cons, List.not_mem_nil, or_false] at listed
  rcases listed with rfl | rfl | rfl | rfl | rfl | rfl | rfl <;> rfl

theorem basicString?_escapeChar (c : Char) (rest : Text) :
    basicString? (escapeChar c ++ rest) = prepend c (basicString? rest) := by
  unfold escapeChar
  by_cases delete : c = '\x7f'
  · rw [if_pos delete]
    exact basicString?_controlDigits (by rw [delete]; decide) rest
  · rw [if_neg delete]
    rcases Json.escapeChar_cases c with ⟨letter, listed, written, known⟩ | ⟨control, written⟩ | plain
    · have named : letter ≠ 'u' ∧ letter ≠ 'U' :=
        ⟨ne_of_mem_of_not_mem listed (by decide), ne_of_mem_of_not_mem listed (by decide)⟩
      rw [← unescape?_of_mem_escapeLetters listed] at known
      rw [written]
      simp [basicString?, named, known]
    · rw [written]
      exact basicString?_controlDigits (by omega) rest
    · obtain ⟨written, unquoted, unescaped, visible⟩ := plain
      have basic : isBasicChar c = true := by
        have other : c.toNat ≠ 127 := by
          intro same
          apply delete
          rw [← Char.ofNat_toNat c, same]
        simp [isBasicChar, isVisible, unquoted, unescaped, visible, other]
      rw [written]
      simp [basicString?, unescaped, basic]

theorem basicString?_written (content rest : Text) :
    basicString? (content.flatMap escapeChar ++ '"' :: rest) = some (content, rest) := by
  induction content with
  | nil => simp [basicString?]
  | cons c content ih =>
      rw [List.flatMap_cons, List.append_assoc, basicString?_escapeChar, ih]
      rfl

/-- Written text does not begin with a quote, so two quotes are not taken for three. -/
theorem escapeChar_starts (c : Char) : ∃ head others, escapeChar c = head :: others ∧ head ≠ '"' := by
  unfold escapeChar
  by_cases delete : c = '\x7f'
  · rw [if_pos delete]
    exact ⟨'\\', _, rfl, by decide⟩
  · rw [if_neg delete]
    rcases Json.escapeChar_cases c with ⟨letter, _, written, _⟩ | ⟨_, written⟩ | plain
    · exact ⟨'\\', _, written, by decide⟩
    · exact ⟨'\\', _, written, by decide⟩
    · obtain ⟨written, unquoted, _, _⟩ := plain
      exact ⟨c, _, written, unquoted⟩

theorem string?_renderString (content rest : Text) :
    string? (renderString content ++ '\n' :: rest) = some (content, '\n' :: rest) := by
  have read := basicString?_written content ('\n' :: rest)
  have opened : renderString content ++ '\n' :: rest =
      '"' :: (content.flatMap escapeChar ++ '"' :: '\n' :: rest) := by
    simp [renderString]
  rw [opened]
  cases content with
  | nil => exact read
  | cons c content =>
      obtain ⟨head, others, starts, unquoted⟩ := escapeChar_starts c
      rw [List.flatMap_cons, starts] at read ⊢
      simp only [List.cons_append, List.append_assoc] at read ⊢
      simp [string?, unquoted, read]

/-! Natural numbers -/

def DigitsThenNewline (text : Text) : Prop :=
  (text.dropWhile Char.isDigit).head? = some '\n'

namespace DigitsThenNewline

theorem ofNat (n : Nat) (rest : Text) : DigitsThenNewline (Text.ofNat n ++ '\n' :: rest) := by
  unfold DigitsThenNewline
  rw [Text.dropWhile_run Text.isDigit_of_mem_ofNat (Text.stopsBefore_cons.mpr (by decide))]
  rfl

variable {text : Text}

theorem after?_eq_none (digits : DigitsThenNewline text) (mark : String) {c : Char}
    (marks : mark.toList = [c]) (other : c.isDigit = false) (visible : c ≠ '\n') :
    after? mark text = none := by
  cases text with
  | nil => cases digits
  | cons head text =>
      have different : ¬ c = head := by
        rintro rfl
        unfold DigitsThenNewline at digits
        rw [List.dropWhile_cons_of_neg (by simp [other])] at digits
        exact visible (by simpa using digits)
      simp [after?, marks, different]

theorem of_fixedNumber? (digits : DigitsThenNewline text) {count value : Nat} {behind : Text}
    (found : fixedNumber? count text = some (value, behind)) : DigitsThenNewline behind := by
  unfold fixedNumber? at found
  dsimp only at found
  split at found
  · rename_i all
    simp only [Option.some.injEq, Prod.mk.injEq] at found
    obtain ⟨_, rfl⟩ := found
    unfold DigitsThenNewline at digits ⊢
    rw [← List.take_append_drop count text,
      List.dropWhile_append_of_pos (by simpa using all.2)] at digits
    exact digits
  · cases found

theorem of_boundedNumber? (digits : DigitsThenNewline text) {least most : Nat}
    {number : Nat × Text} (found : boundedNumber? least most text = some number) :
    DigitsThenNewline number.2 := by
  unfold boundedNumber? at found
  simp only [Option.bind_eq_bind, Option.bind_eq_some_iff, Option.pure_def,
    Option.some.injEq] at found
  obtain ⟨fixed, written, _, _, rfl⟩ := found
  exact digits.of_fixedNumber? written

theorem date?_eq_none (digits : DigitsThenNewline text) : date? text = none := by
  unfold date?
  cases found : fixedNumber? 4 text with
  | none => rfl
  | some year =>
      have behind := digits.of_fixedNumber? found
      have unmarked := behind.after?_eq_none "-" rfl (by decide) (by decide)
      simp [unmarked]

theorem time?_eq_none (digits : DigitsThenNewline text) : time? text = none := by
  unfold time?
  cases found : boundedNumber? 0 23 text with
  | none => rfl
  | some hour =>
      have behind := digits.of_boundedNumber? found
      have unmarked := behind.after?_eq_none ":" rfl (by decide) (by decide)
      simp [unmarked]

theorem datetime?_eq_none (digits : DigitsThenNewline text) : datetime? text = none := by
  unfold datetime?
  rw [digits.date?_eq_none, digits.time?_eq_none]
  rfl

end DigitsThenNewline

theorem dividedDigits_run {digits : Text} (all : ∀ c ∈ digits, c.isDigit = true) (rest : Text) :
    dividedDigits Char.isDigit (digits ++ '\n' :: rest) = (digits, '\n' :: rest) := by
  induction digits with
  | nil => rfl
  | cons c digits ih =>
      have digit := all c (List.mem_cons_self ..)
      have undivided : c ≠ '_' := Text.ne_mark digit (by decide)
      have later := ih (fun d member => all d (List.mem_cons_of_mem c member))
      rw [List.cons_append, dividedDigits]
      · simp [digit, later]
      · intro d others same
        simp [undivided] at same

theorem decimalDigits?_ofNat (n : Nat) (rest : Text) :
    decimalDigits? (Text.ofNat n ++ '\n' :: rest) = some (Text.ofNat n, '\n' :: rest) := by
  obtain ⟨c, others, same, digit⟩ := Text.ofNat_starts n
  have divided := dividedDigits_run (Text.isDigit_of_mem_ofNat (n := n)) rest
  by_cases zero : c = '0'
  · rw [zero] at same
    rw [same, Text.eq_nil_of_ofNat_eq_zero_cons same]
    rfl
  · rw [same] at divided ⊢
    simp only [List.cons_append] at divided ⊢
    simp [decimalDigits?, zero, digits?, digit, divided]

theorem baseValue_ten {digits : Text} (all : ∀ c ∈ digits, c.isDigit = true) :
    baseValue 10 digits = Json.decimalValue digits := by
  unfold baseValue Json.decimalValue
  apply List.foldl_ext
  intro value c member
  rw [Unicode.hexDigit?_of_isDigit (all c member)]
  rfl

theorem sign_ofNat (n : Nat) (rest : Text) :
    sign (Text.ofNat n ++ rest) = (false, Text.ofNat n ++ rest) := by
  obtain ⟨c, others, same, digit⟩ := Text.ofNat_starts n
  have unsigned : c ≠ '-' ∧ c ≠ '+' :=
    ⟨Text.ne_mark digit (by decide), Text.ne_mark digit (by decide)⟩
  rw [same, List.cons_append]
  simp [sign, unsigned]

theorem float?_ofNat (n : Nat) (rest : Text) :
    float? (Text.ofNat n ++ '\n' :: rest) = none := by
  have whole : digitFloat? (Text.ofNat n ++ '\n' :: rest) = none := by
    unfold digitFloat?
    rw [sign_ofNat]
    dsimp only
    rw [decimalDigits?_ofNat]
    rfl
  have unnamed : ∀ name ∈ ["inf", "nan"], after? name (Text.ofNat n ++ '\n' :: rest) = none := by
    obtain ⟨c, others, same, digit⟩ := Text.ofNat_starts n
    have other : 'i' ≠ c ∧ 'n' ≠ c :=
      ⟨(Text.ne_mark digit (by decide)).symm, (Text.ne_mark digit (by decide)).symm⟩
    rw [same]
    simp [after?, other]
  unfold float?
  rw [whole, sign_ofNat]
  simp [unnamed]

/-- What is done with the digits of a decimal integer. The bounds of an integer are large numbers that
must not be unfolded here, so this is stated for any. -/
theorem bounded_decimalDigits? (bounded : Int → Option Node) {text digits rest : Text}
    (unsigned : sign text = (false, text)) (read : decimalDigits? text = some (digits, rest)) :
    (do
      let (negative, unsigned) := sign text
      let (digits, rest) ← decimalDigits? unsigned
      let value := baseValue 10 digits
      let node ← bounded (if negative then -value else value)
      pure (node, rest)) =
        (bounded (baseValue 10 digits)).bind (fun node => some (node, rest)) := by
  simp [unsigned, read]

theorem integer?_decimal {text digits rest : Text}
    (decimal : ∀ letter behind, text = '0' :: letter :: behind → letter = '\n')
    (unsigned : sign text = (false, text)) (read : decimalDigits? text = some (digits, rest)) :
    integer? text = (integerNode? (baseValue 10 digits)).bind (fun node => some (node, rest)) := by
  unfold integer?
  split
  · exact absurd (decimal _ _ rfl) (by decide)
  · exact absurd (decimal _ _ rfl) (by decide)
  · exact absurd (decimal _ _ rfl) (by decide)
  · exact bounded_decimalDigits? integerNode? unsigned read

theorem integer?_ofNat {n : Nat} (fits : n < 0x8000000000000000) (rest : Text) :
    integer? (Text.ofNat n ++ '\n' :: rest) = some (.integer n, '\n' :: rest) := by
  have valued : baseValue 10 (Text.ofNat n) = n := by
    rw [baseValue_ten Text.isDigit_of_mem_ofNat, Json.decimalValue_ofNat]
  have ranged : integerNode? n = some (.integer n) := by
    unfold integerNode?
    rw [if_pos (by omega)]
  have decimal : ∀ letter behind, Text.ofNat n ++ '\n' :: rest = '0' :: letter :: behind →
      letter = '\n' := by
    intro letter behind split
    obtain ⟨c, others, same, _⟩ := Text.ofNat_starts n
    rw [same, List.cons_append, List.cons.injEq] at split
    obtain ⟨rfl, split⟩ := split
    rw [Text.eq_nil_of_ofNat_eq_zero_cons same, List.nil_append, List.cons.injEq] at split
    exact split.1.symm
  rw [integer?_decimal decimal (sign_ofNat n _) (decimalDigits?_ofNat n rest), valued, ranged]
  rfl

theorem scalar?_render {scalar : Scalar} (fits : scalar.Fits) (rest : Text) :
    scalar? (scalar.render ++ '\n' :: rest) = some (scalar.node, '\n' :: rest) := by
  cases scalar with
  | string value =>
      have read := string?_renderString value rest
      simp only [renderString, List.cons_append] at read
      simp only [Scalar.render, renderString, List.cons_append, scalar?, read]
      rfl
  | integer value =>
      have undated := (DigitsThenNewline.ofNat value rest).datetime?_eq_none
      have whole := float?_ofNat value rest
      have read := integer?_ofNat fits rest
      obtain ⟨c, others, same, digit⟩ := Text.ofNat_starts value
      have unmarked : c ∉ ['"', '\'', 't', 'f'] := Text.notMem_marks digit (by decide)
      simp only [List.mem_cons, not_or] at unmarked
      simp only [Scalar.render, Scalar.node, same, List.cons_append] at undated whole read ⊢
      simp [scalar?, unmarked, number?, undated, whole, read]

end ConditionalText.Toml
