import ConditionalText.Text.Basic

/-!
JSON values and their compact text: no blanks, members in order, and no escape that is not needed.
-/

namespace ConditionalText.Json

inductive Value where
  | null
  | bool (value : Bool)
  | integer (value : Int)
  | string (value : Text)
  | array (items : List Value)
  | object (members : List (Text × Value))
  deriving Repr

def controlDigits (c : Char) : Text :=
  [Nat.digitChar (c.toNat / 4096 % 16), Nat.digitChar (c.toNat / 256 % 16),
    Nat.digitChar (c.toNat / 16 % 16), Nat.digitChar (c.toNat % 16)]

def escapeChar (c : Char) : Text :=
  if c = '"' ∨ c = '\\' then ['\\', c]
  else if c = '\x08' then ['\\', 'b']
  else if c = '\x0c' then ['\\', 'f']
  else if c = '\n' then ['\\', 'n']
  else if c = '\r' then ['\\', 'r']
  else if c = '\t' then ['\\', 't']
  else if c.toNat < 32 then ['\\', 'u'] ++ controlDigits c
  else [c]

def renderString (text : Text) : Text :=
  '"' :: text.flatMap escapeChar ++ ['"']

def renderInteger (value : Int) : Text :=
  match value with
  | .ofNat n => Text.ofNat n
  | .negSucc n => '-' :: Text.ofNat (n + 1)

namespace Value

mutual

def render : Value → Text
  | .null => "null".toList
  | .bool true => "true".toList
  | .bool false => "false".toList
  | .integer value => renderInteger value
  | .string value => renderString value
  | .array items => '[' :: renderItems items ++ [']']
  | .object members => '{' :: renderMembers members ++ ['}']

def renderItems : List Value → Text
  | [] => []
  | [item] => render item
  | item :: second :: others => render item ++ ',' :: renderItems (second :: others)

def renderMembers : List (Text × Value) → Text
  | [] => []
  | [(name, value)] => renderString name ++ ':' :: render value
  | (name, value) :: second :: others =>
      renderString name ++ ':' :: render value ++ ',' :: renderMembers (second :: others)

end

end Value

end ConditionalText.Json
