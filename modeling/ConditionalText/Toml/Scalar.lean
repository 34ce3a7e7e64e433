import ConditionalText.Json.Number
import ConditionalText.Toml.Node
import ConditionalText.Unicode.RangeTable

/-!
The scalar values of TOML: strings in four forms, integers in four bases, floats and dates.
-/

namespace ConditionalText.Toml

open Unicode (hexDigit? hexValue)

def isTomlBlank (c : Char) : Bool :=
  c == ' ' || c == '\t'

def dropBlanks (text : Text) : Text :=
  text.dropWhile isTomlBlank

def afterNewline? : Text → Option Text
  | '\n' :: rest => some rest
  | '\r' :: '\n' :: rest => some rest
  | _ => none

def isVisible (c : Char) : Bool :=
  c == '\t' || (32 ≤ c.toNat && c.toNat != 127)

def isBasicChar (c : Char) : Bool :=
  isVisible c && c != '"' && c != '\\'

def isLiteralChar (c : Char) : Bool :=
  isVisible c && c != '\''

def unescape? (letter : Char) : Option Char :=
  [('b', '\x08'), ('f', '\x0c'), ('n', '\n'), ('r', '\r'), ('t', '\t'), ('"', '"'),
    ('\\', '\\')].lookup letter

def numbered? (digits : Text) : Option Char :=
  if digits.all (fun c => (hexDigit? c).isSome) ∧ (hexValue digits).isValidChar then
    some (Char.ofNat (hexValue digits))
  else none

def prepend (c : Char) (found : Option (Text × Text)) : Option (Text × Text) :=
  found.map (fun found => (c :: found.1, found.2))

def basicString? : Text → Option (Text × Text)
  | [] => none
  | '"' :: rest => some ([], rest)
  | '\\' :: 'u' :: a :: b :: c :: d :: rest =>
      (numbered? [a, b, c, d]).bind (fun found => prepend found (basicString? rest))
  | '\\' :: 'U' :: a :: b :: c :: d :: e :: f :: g :: h :: rest =>
      (numbered? [a, b, c, d, e, f, g, h]).bind (fun found => prepend found (basicString? rest))
  | '\\' :: letter :: rest =>
      (unescape? letter).bind (fun found => prepend found (basicString? rest))
  | c :: rest => if isBasicChar c then prepend c (basicString? rest) else none

/-- The end of a string on several lines: up to two of its quotes may stand before the end. -/
def finalQuotes (quote : Char) (text : Text) : Text × Text :=
  match text with
  | a :: b :: rest =>
      if a = quote ∧ b = quote then ([quote, quote], rest)
      else if a = quote then ([quote], b :: rest)
      else ([], a :: b :: rest)
  | [a] => if a = quote then ([quote], []) else ([], [a])
  | [] => ([], [])

/-- A quoted string on several lines, behind its opening quotes. A backslash at the end of a line
swallows the blanks and line ends that follow; while that goes on, `swallowing` is set. -/
def longBasicString? (swallowing : Bool) : Text → Option (Text × Text)
  | [] => none
  | '"' :: '"' :: '"' :: rest => some (finalQuotes '"' rest)
  | '\r' :: '\n' :: rest =>
      if swallowing then longBasicString? true rest
      else prepend '\n' (longBasicString? false rest)
  | '\\' :: 'u' :: a :: b :: c :: d :: rest =>
      (numbered? [a, b, c, d]).bind (fun found => prepend found (longBasicString? false rest))
  | '\\' :: 'U' :: a :: b :: c :: d :: e :: f :: g :: h :: rest =>
      (numbered? [a, b, c, d, e, f, g, h]).bind
        (fun found => prepend found (longBasicString? false rest))
  | '\\' :: letter :: rest =>
      if (afterNewline? (dropBlanks (letter :: rest))).isSome then
        longBasicString? true rest
      else (unescape? letter).bind (fun found => prepend found (longBasicString? false rest))
  | c :: rest =>
      if swallowing && (isTomlBlank c || c == '\n') then longBasicString? true rest
      else if isBasicChar c || c == '\n' || c == '"' then prepend c (longBasicString? false rest)
      else none

def literalString? (text : Text) : Option (Text × Text) :=
  match text.dropWhile isLiteralChar with
  | '\'' :: rest => some (text.takeWhile isLiteralChar, rest)
  | _ => none

def longLiteralString? : Text → Option (Text × Text)
  | [] => none
  | '\'' :: '\'' :: '\'' :: rest => some (finalQuotes '\'' rest)
  | '\r' :: '\n' :: rest => prepend '\n' (longLiteralString? rest)
  | c :: rest =>
      if isVisible c || c == '\n' then prepend c (longLiteralString? rest) else none

def skipFirstNewline (text : Text) : Text :=
  (afterNewline? text).getD text

def string? : Text → Option (Text × Text)
  | '"' :: '"' :: '"' :: rest => longBasicString? false (skipFirstNewline rest)
  | '"' :: rest => basicString? rest
  | '\'' :: '\'' :: '\'' :: rest => longLiteralString? (skipFirstNewline rest)
  | '\'' :: rest => literalString? rest
  | _ => none

def dividedDigits (isDigit : Char → Bool) : Text → Text × Text
  | [] => ([], [])
  | '_' :: c :: rest =>
      if isDigit c then
        let found := dividedDigits isDigit rest
        (c :: found.1, found.2)
      else ([], '_' :: c :: rest)
  | c :: rest =>
      if isDigit c then
        let found := dividedDigits isDigit rest
        (c :: found.1, found.2)
      else ([], c :: rest)

def digits? (isDigit : Char → Bool) (text : Text) : Option (Text × Text) :=
  match text with
  | c :: _ => if isDigit c then some (dividedDigits isDigit text) else none
  | [] => none

def sign (text : Text) : Bool × Text :=
  match text with
  | '-' :: rest => (true, rest)
  | '+' :: rest => (false, rest)
  | rest => (false, rest)

def decimalDigits? (text : Text) : Option (Text × Text) :=
  match text with
  | '0' :: rest => some (['0'], rest)
  | rest => digits? Char.isDigit rest

def baseValue (base : Nat) (digits : Text) : Nat :=
  digits.foldl (fun value c => value * base + (hexDigit? c).getD 0) 0

def isDigitBelow (base : Nat) (c : Char) : Bool :=
  (hexDigit? c).any (· < base)

/-- An integer of 64 bits with its sign. -/
def integerNode? (value : Int) : Option Node :=
  if -0x8000000000000000 ≤ value ∧ value < 0x8000000000000000 then some (.integer value) else none

def basedInteger? (base : Nat) (text : Text) : Option (Node × Text) := do
  let (digits, rest) ← digits? (isDigitBelow base) text
  let node ← integerNode? (baseValue base digits)
  pure (node, rest)

def integer? (text : Text) : Option (Node × Text) :=
  match text with
  | '0' :: 'x' :: rest => basedInteger? 16 rest
  | '0' :: 'o' :: rest => basedInteger? 8 rest
  | '0' :: 'b' :: rest => basedInteger? 2 rest
  | text => do
      let (negative, unsigned) := sign text
      let (digits, rest) ← decimalDigits? unsigned
      let value := baseValue 10 digits
      let node ← integerNode? (if negative then -value else value)
      pure (node, rest)

def exponent? (text : Text) : Option ((Bool × Text) × Text) :=
  match text with
  | c :: rest =>
      if c = 'e' ∨ c = 'E' then
        let (negative, unsigned) := sign rest
        (digits? Char.isDigit unsigned).map (fun found => ((negative, found.1), found.2))
      else none
  | [] => none

def digitFloat? (text : Text) : Option (Json.Number × Text) := do
  let (negative, unsigned) := sign text
  let (whole, rest) ← decimalDigits? unsigned
  match rest with
  | '.' :: rest =>
      let (fraction, rest) ← digits? Char.isDigit rest
      match exponent? rest with
      | some (exponent, rest) => pure (⟨negative, whole, some fraction, some exponent⟩, rest)
      | none => pure (⟨negative, whole, some fraction, none⟩, rest)
  | rest =>
      let (exponent, rest) ← exponent? rest
      pure (⟨negative, whole, none, some exponent⟩, rest)

def after? (word : String) (text : Text) : Option Text :=
  if word.toList.isPrefixOf text then some (text.drop word.length) else none

/-- A float. A number too large for a double is refused, unless it is negative. -/
def float? (text : Text) : Option (Node × Text) :=
  match digitFloat? text with
  | some (number, rest) =>
      if number.exceedsDouble && !number.negative then none else some (.float, rest)
  | none =>
      let unsigned := (sign text).2
      (after? "inf" unsigned <|> after? "nan" unsigned).map (fun rest => (.float, rest))

def fixedNumber? (count : Nat) (text : Text) : Option (Nat × Text) :=
  let digits := text.take count
  if digits.length = count ∧ digits.all Char.isDigit then
    some (Json.decimalValue digits, text.drop count)
  else none

def boundedNumber? (least most : Nat) (text : Text) : Option (Nat × Text) := do
  let (value, rest) ← fixedNumber? 2 text
  guard (least ≤ value ∧ value ≤ most)
  pure (value, rest)

def daysOfMonth (year month : Nat) : Nat :=
  if month = 2 then
    if year % 4 = 0 ∧ (year % 100 ≠ 0 ∨ year % 400 = 0) then 29 else 28
  else if month = 4 ∨ month = 6 ∨ month = 9 ∨ month = 11 then 30
  else 31

def date? (text : Text) : Option Text := do
  let (year, rest) ← fixedNumber? 4 text
  let rest ← after? "-" rest
  let (month, rest) ← boundedNumber? 1 12 rest
  let rest ← after? "-" rest
  let (_, rest) ← boundedNumber? 1 (daysOfMonth year month) rest
  pure rest

def time? (text : Text) : Option Text := do
  let (_, rest) ← boundedNumber? 0 23 text
  let rest ← after? ":" rest
  let (_, rest) ← boundedNumber? 0 59 rest
  let rest ← after? ":" rest
  let (_, rest) ← boundedNumber? 0 60 rest
  match rest with
  | '.' :: fraction =>
      guard ((fraction.head?.map Char.isDigit).getD false)
      pure (fraction.dropWhile Char.isDigit)
  | rest => pure rest

def offset? (text : Text) : Option Text :=
  match text with
  | c :: rest =>
      if c = 'Z' ∨ c = 'z' then some rest
      else if c = '+' ∨ c = '-' then do
        let (_, rest) ← boundedNumber? 0 23 rest
        let rest ← after? ":" rest
        let (_, rest) ← boundedNumber? 0 59 rest
        pure rest
      else some (c :: rest)
  | [] => some []

def datetime? (text : Text) : Option (Node × Text) :=
  match date? text with
  | some rest =>
      match rest with
      | c :: afterMark =>
          if c = 'T' ∨ c = 't' ∨ c = ' ' then
            match time? afterMark with
            | some afterTime => (offset? afterTime).map (fun rest => (.datetime, rest))
            | none => some (.datetime, rest)
          else some (.datetime, rest)
      | [] => some (.datetime, [])
  | none => (time? text).map (fun rest => (.datetime, rest))

def number? (text : Text) : Option (Node × Text) :=
  datetime? text <|> float? text <|> integer? text

def scalar? (text : Text) : Option (Node × Text) :=
  match text with
  | [] => none
  | c :: _ =>
      if c = '"' ∨ c = '\'' then (string? text).map (fun found => (.string found.1, found.2))
      else if c = 't' then (after? "true" text).map (fun rest => (.boolean true, rest))
      else if c = 'f' then (after? "false" text).map (fun rest => (.boolean false, rest))
      else number? text

end ConditionalText.Toml
