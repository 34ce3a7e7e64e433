import ConditionalText.Toml.Scalar

/-!
Reading TOML texts: values, keys, and the lines of a document.
-/

namespace ConditionalText.Toml

def isBareKeyChar (c : Char) : Bool :=
  isAsciiAlphanumeric c || c == '-' || c == '_'

def simpleKey? (text : Text) : Option (Text × Text) :=
  match text with
  | '"' :: rest => basicString? rest
  | '\'' :: rest => literalString? rest
  | bare =>
      let key := bare.takeWhile isBareKeyChar
      if key.isEmpty then none else some (key, bare.dropWhile isBareKeyChar)

/-- Keys with dots between them and blanks around each. Each key takes at least one character, so
`fuel` need not exceed the length of the text. -/
def keyPath? : (fuel : Nat) → Text → Option (List Text × Text)
  | 0, _ => none
  | fuel + 1, text => do
      let (key, rest) ← simpleKey? (dropBlanks text)
      match dropBlanks rest with
      | '.' :: rest =>
          let (path, rest) ← keyPath? fuel rest
          pure (key :: path, rest)
      | rest => pure ([key], rest)

def depthLimit : Nat := 80

def dottedKey? (text : Text) : Option (List Text × Text) := do
  let (path, rest) ← keyPath? text.length text
  guard (path.length < depthLimit)
  pure (path, rest)

def skipLines (inComment : Bool) : Text → Text
  | [] => []
  | '\r' :: '\n' :: rest => skipLines false rest
  | c :: rest =>
      if inComment && isVisible c then skipLines true rest
      else if isTomlBlank c || c == '\n' then skipLines false rest
      else if c = '#' then skipLines true rest
      else c :: rest

mutual

/-- The value that the text starts with. `depth` counts the values that may still be nested. Of two
calls in a row at least one takes a character, which bounds `fuel` as in reading JSON. -/
def value? (fuel depth : Nat) (text : Text) : Option (Node × Text) :=
  match fuel with
  | 0 => none
  | fuel + 1 =>
      match text with
      | '[' :: rest =>
          match depth with
          | 0 => none
          | depth + 1 => (items? fuel depth rest).map (fun found => (.array found.1, found.2))
      | '{' :: rest =>
          match depth with
          | 0 => none
          | depth + 1 =>
              match dropBlanks rest with
              | '}' :: rest => some (.table .inline [], rest)
              | _ => do
                  let (pairs, rest) ← pairs? fuel depth rest
                  let entries ← Entries.assignAll pairs []
                  pure (.table .inline entries, rest)
      | _ => scalar? text

def items? (fuel depth : Nat) (text : Text) : Option (List Node × Text) :=
  match fuel with
  | 0 => none
  | fuel + 1 =>
      match skipLines false text with
      | ']' :: rest => some ([], rest)
      | start => do
          let (item, rest) ← value? fuel depth start
          match skipLines false rest with
          | ']' :: rest => pure ([item], rest)
          | ',' :: rest =>
              let (others, rest) ← items? fuel depth rest
              pure (item :: others, rest)
          | _ => none

def pairs? (fuel depth : Nat) (text : Text) : Option (List (List Text × Node) × Text) :=
  match fuel with
  | 0 => none
  | fuel + 1 => do
      let (path, rest) ← dottedKey? text
      let rest ← after? "=" rest
      let (value, rest) ← value? fuel depth (dropBlanks rest)
      match dropBlanks rest with
      | '}' :: rest => pure ([(path, value)], rest)
      | ',' :: rest =>
          let (others, rest) ← pairs? fuel depth rest
          pure ((path, value) :: others, rest)
      | _ => none

end

def afterLine? (text : Text) : Option Text :=
  let rest :=
    match dropBlanks text with
    | '#' :: comment => comment.dropWhile isVisible
    | rest => rest
  match rest with
  | [] => some []
  | rest => afterNewline? rest

def assignment? (text : Text) : Option ((List Text × Node) × Text) := do
  let (path, rest) ← dottedKey? text
  let rest ← after? "=" rest
  let (value, rest) ← value? (2 * text.length + 2) (depthLimit - 1) (dropBlanks rest)
  let rest ← afterLine? rest
  pure ((path, value), rest)

def header? (closing : String) (text : Text) : Option ((List Text × Text) × Text) := do
  let (path, rest) ← dottedKey? text
  let rest ← after? closing rest
  let rest ← afterLine? rest
  let key ← path.getLast?
  pure ((path.dropLast, key), rest)

inductive Line where
  | blank
  | header (path : List Text) (key : Text) (isSequence : Bool)
  | assignment (path : List Text) (value : Node)

def line? (text : Text) : Option (Line × Text) :=
  match text with
  | '[' :: '[' :: rest => (header? "]]" rest).map (fun found =>
      (.header found.1.1 found.1.2 true, found.2))
  | '[' :: rest => (header? "]" rest).map (fun found =>
      (.header found.1.1 found.1.2 false, found.2))
  | '#' :: rest => (afterLine? ('#' :: rest)).map (fun rest => (.blank, rest))
  | text =>
      match afterNewline? text with
      | some rest => some (.blank, rest)
      | none => (assignment? text).map (fun found =>
          (.assignment found.1.1 found.1.2, found.2))

def lines? : (fuel : Nat) → Text → Option (List Line)
  | 0, _ => none
  | fuel + 1, text =>
      match dropBlanks text with
      | [] => some []
      | start => do
          let (line, rest) ← line? start
          let others ← lines? fuel rest
          pure (line :: others)

def sections : List Line → List (List Text × Node) × List Section
  | [] => ([], [])
  | .blank :: lines => sections lines
  | .assignment path value :: lines =>
      let (values, others) := sections lines
      ((path, value) :: values, others)
  | .header path key isSequence :: lines =>
      let (values, others) := sections lines
      ([], ⟨path, key, isSequence, values⟩ :: others)

/-- The entries of a whole document; a byte order mark in front does not count. -/
def ofText? (text : Text) : Option Entries := do
  let text := match text with
    | '\ufeff' :: rest => rest
    | text => text
  let lines ← lines? (text.length + 1) text
  let (values, parts) := sections lines
  let entries ← Entries.assignAll values []
  parts.foldlM (fun entries part => part.addTo entries) entries

end ConditionalText.Toml
