import ConditionalText.Text.Basic
import ConditionalText.Unicode.Revision

/-!
Texts in quotes for messages: what could not be seen or would end the quotation is escaped.
-/

namespace ConditionalText.Text

def ofHex (n : Nat) : Text :=
  Nat.toDigits 16 n

def numberedEscape (c : Char) : Text :=
  ['\\', 'u', '{'] ++ ofHex c.toNat ++ ['}']

/-- Marks that would join the character before them; letters among them stay as they are. -/
def joinsPrevious (c : Char) : Bool :=
  Unicode.isGraphemeExtend c && !Unicode.modifierLetter.contains c

def isInvisible (c : Char) : Bool :=
  !Unicode.isPrintable c || Unicode.defaultIgnorable.contains c

/-- Marks that would join the character before them are escaped like invisible characters. -/
def quotedChar (c : Char) : Text :=
  if c = '\x00' then ['\\', '0']
  else if c = '\t' then ['\\', 't']
  else if c = '\r' then ['\\', 'r']
  else if c = '\n' then ['\\', 'n']
  else if c = '\\' ∨ c = '"' then ['\\', c]
  else if joinsPrevious c || isInvisible c then numberedEscape c
  else [c]

def quoted (text : Text) : Text :=
  '"' :: text.flatMap quotedChar ++ ['"']

end ConditionalText.Text
