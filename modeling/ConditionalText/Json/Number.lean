import ConditionalText.Text.Basic

/-!
JSON numbers as they are written.
-/

namespace ConditionalText.Json

structure Number where
  negative : Bool
  whole : Text
  fraction : Option Text
  exponent : Option (Bool × Text)
  deriving Repr, DecidableEq

def decimalValue (digits : Text) : Nat :=
  digits.foldl (fun value c => value * 10 + (c.toNat - '0'.toNat)) 0

namespace Number

def unsigned? (number : Number) : Option UInt64 :=
  match number with
  | ⟨false, whole, none, none⟩ =>
      if decimalValue whole < UInt64.size then some (UInt64.ofNat (decimalValue whole)) else none
  | _ => none

/-- Takes decimal digits into a number as long as it stays below two to the sixty-fourth. The second
component counts the digits taken. -/
def takeDigits (value : Nat) : Text → Nat × Nat
  | [] => (value, 0)
  | c :: rest =>
      let next := value * 10 + (c.toNat - '0'.toNat)
      if next < UInt64.size then
        let (last, taken) := takeDigits next rest
        (last, taken + 1)
      else (value, 0)

def writtenExponent (number : Number) : Int :=
  match number.exponent with
  | none => 0
  | some (false, digits) => decimalValue digits
  | some (true, digits) => -decimalValue digits

/-- The leading digits, as many as fit a word of sixty-four bits, and the power of ten that they stand
with. Digits of the whole part that do not fit count as zeros; those of the fraction are dropped. -/
def parts (number : Number) : Nat × Int :=
  let (value, taken) := takeDigits 0 number.whole
  let (value, fractionTaken) := takeDigits value (number.fraction.getD [])
  (value, number.writtenExponent + (number.whole.length - taken : Nat) - (fractionTaken : Nat))

def nearestDouble (n : Nat) : Nat :=
  let unit := Nat.pow 2 (n.log2 - 52)
  let quotient := n / unit
  let rest := n % unit
  if unit < 2 * rest ∨ (2 * rest = unit ∧ quotient % 2 = 1) then (quotient + 1) * unit
  else quotient * unit

/-- Half a unit beyond the largest double: from here on a number is not finite. -/
def doubleBound : Nat := Nat.pow 2 1024 - Nat.pow 2 970

def significand (number : Number) : Nat :=
  decimalValue (number.whole ++ number.fraction.getD [])

def scale (number : Number) : Int :=
  number.writtenExponent - ((number.fraction.getD []).length : Int)

def exceedsDouble (number : Number) : Bool :=
  if number.significand = 0 then false
  else if number.scale ≥ 309 then true
  else if number.scale ≥ 0 then number.significand * Nat.pow 10 number.scale.toNat ≥ doubleBound
  else if (number.whole.length : Int) + (number.fraction.getD []).length + number.scale < 300 then
    false
  else number.significand ≥ doubleBound * Nat.pow 10 (-number.scale).toNat

/-- Whether JSON has no double for the number. There a number is read as a product of two doubles, the
leading digits and the power of ten, each of which is rounded before the product is. -/
def overflows (number : Number) : Bool :=
  let (value, exponent) := number.parts
  if value = 0 ∨ exponent < 0 then false
  else if exponent > 308 then true
  else nearestDouble value * nearestDouble (Nat.pow 10 exponent.toNat) ≥ doubleBound

end Number

end ConditionalText.Json
