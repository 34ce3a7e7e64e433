import ConditionalText.Json.Node
import ConditionalText.Unicode.RangeTable

/-!
Reading JSON texts into trees.
-/

namespace ConditionalText.Json

def isJsonBlank (c : Char) : Bool :=
  c == ' ' || c == '\n' || c == '\t' || c == '\r'

def dropBlanks (text : Text) : Text :=
  text.dropWhile isJsonBlank

def hexQuad? (a b c d : Char) : Option Nat := do
  let a ← Unicode.hexDigit? a
  let b ← Unicode.hexDigit? b
  let c ← Unicode.hexDigit? c
  let d ← Unicode.hexDigit? d
  pure (((a * 16 + b) * 16 + c) * 16 + d)

/-- What is wrong with a numbered escape: a text of fewer than four bytes ends too early. -/
def quadFault (text : Text) : JsonFault :=
  if text.utf8Length < 4 then .ended else .form

def unescape? (letter : Char) : Option Char :=
  [('"', '"'), ('\\', '\\'), ('/', '/'), ('b', '\x08'), ('f', '\x0c'), ('n', '\n'), ('r', '\r'),
    ('t', '\t')].lookup letter

def skipString : Text → Except JsonFault Text
  | [] => .error .ended
  | '"' :: rest => .ok rest
  | '\\' :: 'u' :: a :: b :: c :: d :: rest =>
      if (hexQuad? a b c d).isSome then skipString rest
      else .error (quadFault (a :: b :: c :: d :: rest))
  | '\\' :: 'u' :: rest => .error (quadFault rest)
  | '\\' :: letter :: rest =>
      if (unescape? letter).isSome then skipString rest else .error .form
  | '\\' :: [] => .error .ended
  | c :: rest => if c.toNat < 32 then .error .form else skipString rest

def isHighSurrogate (code : Nat) : Bool := 0xD800 ≤ code && code < 0xDC00
def isLowSurrogate (code : Nat) : Bool := 0xDC00 ≤ code && code < 0xE000

def joinSurrogates (high low : Nat) : Char :=
  Char.ofNat (0x10000 + (high - 0xD800) * 0x400 + (low - 0xDC00))

def prepend (c : Char) (result : Except JsonFault (Text × Text)) :
    Except JsonFault (Text × Text) :=
  result.map (fun found => (c :: found.1, found.2))

/-- What is wrong behind a high surrogate when no low surrogate follows. -/
def lonelyFault : Text → JsonFault
  | [] => .ended
  | '\\' :: [] => .ended
  | '\\' :: 'u' :: rest =>
      match rest with
      | a :: b :: c :: d :: _ => if (hexQuad? a b c d).isSome then .form else quadFault rest
      | _ => quadFault rest
  | _ => .form

def readString : Text → Except JsonFault (Text × Text)
  | [] => .error .ended
  | '"' :: rest => .ok ([], rest)
  | '\\' :: 'u' :: a :: b :: c :: d :: rest =>
      match hexQuad? a b c d with
      | none => .error (quadFault (a :: b :: c :: d :: rest))
      | some code =>
          if isLowSurrogate code then .error .form
          else if isHighSurrogate code then
            match rest with
            | '\\' :: 'u' :: e :: f :: g :: h :: others =>
                match hexQuad? e f g h with
                | some low =>
                    if isLowSurrogate low then prepend (joinSurrogates code low) (readString others)
                    else .error .form
                | none => .error (lonelyFault rest)
            | _ => .error (lonelyFault rest)
          else prepend (Char.ofNat code) (readString rest)
  | '\\' :: 'u' :: rest => .error (quadFault rest)
  | '\\' :: letter :: rest =>
      match unescape? letter with
      | some c => prepend c (readString rest)
      | none => .error .form
  | '\\' :: [] => .error .ended
  | c :: rest => if c.toNat < 32 then .error .form else prepend c (readString rest)

def stringNode (text : Text) : Node × Option Text :=
  match skipString text with
  | .ok rest => (.string ((readString text).map Prod.fst), some rest)
  | .error skipped =>
      match readString text with
      | .ok _ => (.brokenString skipped skipped, none)
      | .error read => (.brokenString read skipped, none)

def wordNode (node : Node) : (letters text : Text) → Node × Option Text
  | [], text => (node, some text)
  | _ :: _, [] => (.brokenScalar .ended .ended, none)
  | letter :: letters, c :: text =>
      if c = letter then wordNode node letters text else (.brokenScalar .form .form, none)

def digits (text : Text) : Except Node (Text × Text) :=
  match text.takeWhile Char.isDigit, text.dropWhile Char.isDigit with
  | [], [] => .error (.brokenScalar .ended .form)
  | [], _ => .error (.brokenScalar .form .form)
  | found, rest => .ok (found, rest)

def wholeDigits (text : Text) : Except Node (Text × Text) := do
  let (found, rest) ← digits text
  if found.length > 1 ∧ found.head? = some '0' then .error (.brokenScalar .form .form)
  else .ok (found, rest)

def fractionDigits (text : Text) : Except Node (Option Text × Text) :=
  match text with
  | '.' :: rest => (digits rest).map (fun found => (some found.1, found.2))
  | rest => .ok (none, rest)

def signedDigits (text : Text) : Except Node ((Bool × Text) × Text) :=
  match text with
  | '+' :: rest => (digits rest).map (fun found => ((false, found.1), found.2))
  | '-' :: rest => (digits rest).map (fun found => ((true, found.1), found.2))
  | rest => (digits rest).map (fun found => ((false, found.1), found.2))

def exponentDigits (text : Text) : Except Node (Option (Bool × Text) × Text) :=
  match text with
  | 'e' :: rest => (signedDigits rest).map (fun found => (some found.1, found.2))
  | 'E' :: rest => (signedDigits rest).map (fun found => (some found.1, found.2))
  | rest => .ok (none, rest)

def number (negative : Bool) (text : Text) : Except Node (Number × Text) := do
  let (whole, rest) ← wholeDigits text
  let (fraction, rest) ← fractionDigits rest
  let (exponent, rest) ← exponentDigits rest
  pure (⟨negative, whole, fraction, exponent⟩, rest)

def numberNode (negative : Bool) (text : Text) : Node × Option Text :=
  match number negative text with
  | .ok (number, rest) => (.number number, some rest)
  | .error node => (node, none)

mutual

/-- The value that the text starts with, and what follows it if the value is whole. Of two calls in
a row at least one takes a character of the text, so `fuel` need not exceed twice its length by more
than two. -/
def readNode (fuel : Nat) (text : Text) : Node × Option Text :=
  match fuel with
  | 0 => (.missing, none)
  | fuel + 1 =>
      match dropBlanks text with
      | [] => (.missing, none)
      | 'n' :: rest => wordNode .null "ull".toList rest
      | 't' :: rest => wordNode (.bool true) "rue".toList rest
      | 'f' :: rest => wordNode (.bool false) "alse".toList rest
      | '"' :: rest => stringNode rest
      | '-' :: rest => numberNode true rest
      | '[' :: rest =>
          match dropBlanks rest with
          | [] => (.array (.fault .ended), none)
          | ']' :: rest => (.array .closed, some rest)
          | _ =>
              let (items, rest) := readItems fuel rest
              (.array items, rest)
      | '{' :: rest =>
          match dropBlanks rest with
          | [] => (.object (.fault .ended), none)
          | '}' :: rest => (.object .closed, some rest)
          | _ =>
              let (members, rest) := readMembers fuel rest
              (.object members, rest)
      | c :: rest =>
          if c.isDigit then numberNode false (c :: rest) else (.brokenScalar .form .form, none)

def readItems (fuel : Nat) (text : Text) : Items × Option Text :=
  match fuel with
  | 0 => (.fault .ended, none)
  | fuel + 1 =>
      match readNode fuel text with
      | (item, none) => (.cons item (.fault .ended), none)
      | (item, some rest) =>
          match dropBlanks rest with
          | [] => (.cons item (.fault .ended), none)
          | ']' :: rest => (.cons item .closed, some rest)
          | ',' :: rest =>
              let (others, rest) := readItems fuel rest
              (.cons item others, rest)
          | _ => (.cons item (.fault .form), none)

def readMembers (fuel : Nat) (text : Text) : Members × Option Text :=
  match fuel with
  | 0 => (.fault .ended, none)
  | fuel + 1 =>
      match dropBlanks text with
      | [] => (.strayName .ended .ended, none)
      | '"' :: rest =>
          match stringNode rest with
          | (.string name, some rest) =>
              match dropBlanks rest with
              | [] => (.cons name .missing (.fault .ended), none)
              | ':' :: rest =>
                  match readNode fuel rest with
                  | (value, none) => (.cons name value (.fault .ended), none)
                  | (value, some rest) =>
                      match dropBlanks rest with
                      | [] => (.cons name value (.fault .ended), none)
                      | '}' :: rest => (.cons name value .closed, some rest)
                      | ',' :: rest =>
                          let (others, rest) := readMembers fuel rest
                          (.cons name value others, rest)
                      | _ => (.cons name value (.fault .form), none)
              | _ => (.cons name (.brokenScalar .form .form) (.fault .ended), none)
          | (.brokenString read skipped, _) => (.strayName read skipped, none)
          | _ => (.strayName .form .form, none)
      | _ => (.strayName .form .form, none)

end

structure Document where
  root : Node
  complete : Bool

def Document.ofText (text : Text) : Document :=
  let (root, rest) := readNode (2 * text.length + 2) text
  ⟨root, rest.any (fun rest => (dropBlanks rest).isEmpty)⟩

/-- Reads a whole JSON text. What follows the value is looked at last. -/
def Document.decode {α : Type} (read : Node → Except JsonFault α) (text : Text) :
    Except JsonFault α := do
  let document := Document.ofText text
  let value ← read document.root
  if document.complete then .ok value else .error .form

end ConditionalText.Json
