/-!
Texts as lists of characters, their length in UTF-8 bytes, the ASCII classes that the marker
grammar speaks of, and the substring test.
-/

namespace ConditionalText

abbrev Text := List Char

namespace Text

def utf8Length : Text → Nat
  | [] => 0
  | c :: rest => c.utf8Size + utf8Length rest

@[simp] theorem utf8Length_nil : utf8Length [] = 0 := rfl

@[simp] theorem utf8Length_cons (c : Char) (text : Text) :
    utf8Length (c :: text) = c.utf8Size + utf8Length text := rfl

@[simp] theorem utf8Length_append (left right : Text) :
    utf8Length (left ++ right) = utf8Length left + utf8Length right := by
  induction left with
  | nil => simp
  | cons c left ih =>
      simp only [List.cons_append, utf8Length_cons, ih]
      omega

/-- The text from the byte `offset` on, which should be the first of a character. -/
def dropBytes (text : Text) (offset : Nat) : Text :=
  match text with
  | [] => []
  | c :: rest => if offset = 0 then c :: rest else dropBytes rest (offset - c.utf8Size)

def takeBytes (text : Text) (offset : Nat) : Text :=
  match text with
  | [] => []
  | c :: rest => if offset = 0 then [] else c :: takeBytes rest (offset - c.utf8Size)

def slice (text : Text) (start stop : Nat) : Text :=
  (text.dropBytes start).takeBytes (stop - start)

@[simp] theorem dropBytes_zero (text : Text) : text.dropBytes 0 = text := by
  cases text <;> rfl

@[simp] theorem takeBytes_zero (text : Text) : text.takeBytes 0 = [] := by
  cases text <;> rfl

theorem dropBytes_append (left right : Text) :
    dropBytes (left ++ right) left.utf8Length = right := by
  induction left with
  | nil => simp
  | cons c left ih =>
      have positive := c.utf8Size_pos
      simp only [List.cons_append, utf8Length_cons, dropBytes]
      rw [if_neg (by omega), Nat.add_sub_cancel_left, ih]

theorem takeBytes_append (left right : Text) :
    takeBytes (left ++ right) left.utf8Length = left := by
  induction left with
  | nil => simp
  | cons c left ih =>
      have positive := c.utf8Size_pos
      simp only [List.cons_append, utf8Length_cons, takeBytes]
      rw [if_neg (by omega), Nat.add_sub_cancel_left, ih]

theorem slice_append (before within after : Text) :
    slice (before ++ (within ++ after)) before.utf8Length
      (before.utf8Length + within.utf8Length) = within := by
  rw [slice, dropBytes_append, Nat.add_sub_cancel_left, takeBytes_append]

def lowerAscii (text : Text) : Text :=
  text.map Char.toLower

def contains (text needle : Text) : Bool :=
  match text with
  | [] => needle.isEmpty
  | c :: rest => needle.isPrefixOf (c :: rest) || contains rest needle

theorem contains_iff (text needle : Text) :
    contains text needle = true ↔ ∃ before after, text = before ++ needle ++ after := by
  induction text with
  | nil =>
      constructor
      · intro found
        have empty : needle = [] := List.isEmpty_iff.mp found
        exact ⟨[], [], by simp [empty]⟩
      · rintro ⟨before, after, split⟩
        have all := List.append_eq_nil_iff.mp split.symm
        simp [contains, (List.append_eq_nil_iff.mp all.1).2]
  | cons c rest ih =>
      rw [contains, Bool.or_eq_true, List.isPrefixOf_iff_prefix, ih]
      constructor
      · rintro (⟨after, split⟩ | ⟨before, after, split⟩)
        · exact ⟨[], after, by simp [split]⟩
        · exact ⟨c :: before, after, by simp [split]⟩
      · rintro ⟨before, after, split⟩
        cases before with
        | nil => exact Or.inl ⟨after, by simpa using split.symm⟩
        | cons head before =>
            simp only [List.cons_append, List.cons.injEq] at split
            exact Or.inr ⟨before, after, by simp [split.2]⟩

/-- Decimal digits of a number, without leading zeros. -/
def ofNat (n : Nat) : Text :=
  Nat.toDigits 10 n

end Text

/-- The six blank characters of ASCII: tab, the three line controls, carriage return, space. -/
def isBlank (c : Char) : Bool :=
  c == ' ' || ('\t' ≤ c && c ≤ '\r')

def isAsciiAlphanumeric (c : Char) : Bool :=
  c.isAlphanum

end ConditionalText
