import ConditionalText.Pattern.Escape

/-!
Classes in brackets: characters, ranges, named classes, brackets in brackets, and the operations
`&&`, `--` and `~~`, which bind weaker than union and group to the left.
-/

namespace ConditionalText.Pattern

inductive SetOperation where
  | inter
  | diff
  | symmDiff
  deriving Repr, DecidableEq

def SetOperation.apply : SetOperation → CharSet → CharSet → CharSet
  | .inter => .inter
  | .diff => .diff
  | .symmDiff => .symmDiff

structure ClassPart where
  chars : CharSet
  depth : Nat

/-- A bracket that is still open: the parts since the last operation, latest first, and the operand
and operation before them. -/
structure Bracket where
  negated : Bool
  parts : List ClassPart
  pending : Option (ClassPart × SetOperation)

def depthOver (depths : List Nat) : Nat :=
  depths.foldl max 0 + 1

namespace Bracket

def add (bracket : Bracket) (part : ClassPart) : Bracket :=
  { bracket with parts := part :: bracket.parts }

def union (bracket : Bracket) : ClassPart :=
  match bracket.parts with
  | [part] => part
  | [] => ⟨.none, 0⟩
  | parts => ⟨.unionAll (parts.map ClassPart.chars), depthOver (parts.map ClassPart.depth)⟩

def content (flags : Flags) (bracket : Bracket) : ClassPart :=
  let right := bracket.union
  match bracket.pending with
  | none => right
  | some (left, operation) =>
      ⟨operation.apply (flags.closeCase left.chars) (flags.closeCase right.chars),
        depthOver [left.depth, right.depth]⟩

def operate (flags : Flags) (operation : SetOperation) (bracket : Bracket) : Bracket :=
  { bracket with parts := [], pending := some (bracket.content flags, operation) }

end Bracket

def closedSet? (flags : Flags) (negated : Bool) (chars : CharSet) : Option CharSet :=
  let result := CharSet.complementIf negated (flags.closeCase chars)
  if flags.unicode || result.isAscii then some result else none

def Bracket.close? (flags : Flags) (bracket : Bracket) : Option ClassPart := do
  let content := bracket.content flags
  let chars ← closedSet? flags bracket.negated content.chars
  pure ⟨chars, content.depth + 1⟩

def classChar? (flags : Flags) (c : Char) : Option Char :=
  if flags.unicode || c.toNat < 128 then some c else none

def leadingHyphens (flags : Flags) (inComment : Bool) : Text → Nat × Text
  | [] => (0, [])
  | c :: rest =>
      if flags.extended && inComment then leadingHyphens flags (c != '\n') rest
      else if flags.extended && isSpace c then leadingHyphens flags false rest
      else if flags.extended && c == '#' then leadingHyphens flags true rest
      else if c = '-' then
        let found := leadingHyphens flags false rest
        (found.1 + 1, found.2)
      else (0, c :: rest)

/-- The beginning of a bracket, behind its first character: a circumflex negates, hyphens stand for
themselves, and so does a closing bracket in first place. -/
def openBracket? (flags : Flags) (text : Text) : Option (Bracket × Text) := do
  let text ← flags.skip? text
  let negated := text.head? == some '^'
  let text ← if negated then flags.skip? text.tail else some text
  let (hyphens, text) := leadingHyphens flags false text
  let text ← flags.skip? text
  let bracket : Bracket := ⟨negated, List.replicate hyphens ⟨.single '-', 0⟩, none⟩
  if hyphens = 0 ∧ text.head? = some ']' then
    let text ← flags.skip? text.tail
    pure (bracket.add ⟨.single ']', 0⟩, text)
  else pure (bracket, text)

def asciiClass? (text : Text) : Option (CharSet × Bool × Text) :=
  match text with
  | ':' :: inner =>
      let negated := inner.head? == some '^'
      let named := if negated then inner.tail else inner
      match named.dropWhile (· != ':') with
      | ':' :: ']' :: rest =>
          (ClassName.ascii? (named.takeWhile (· != ':'))).map (fun chars => (chars, negated, rest))
      | _ => none
  | _ => none

def classElement? (flags : Flags) (text : Text) : Option (Escape × Text) :=
  match text with
  | [] => none
  | '\\' :: rest => escape? flags rest
  | c :: rest => some (.char c false, rest)

/-- The character that decides whether a hyphen makes a range. A comment mark counts as blank, the
comment itself does not. -/
def afterHyphen (flags : Flags) (text : Text) : Option Char :=
  if flags.extended then
    match text.dropWhile isSpace with
    | [] => text.head?
    | '#' :: rest => (rest.dropWhile isSpace).head? <|> text.head?
    | c :: _ => some c
  else text.head?

def classRange? (flags : Flags) (text : Text) : Option (ClassPart × Text) := do
  let (first, text) ← classElement? flags text
  let text ← flags.skip? text
  let next := afterHyphen flags text.tail
  if text.head? ≠ some '-' ∨ next = some ']' ∨ next = some '-' then
    match first with
    | .char c _ => do
        let c ← classChar? flags c
        pure (⟨.single c, 0⟩, text)
    | .set chars => pure (⟨chars, 0⟩, text)
    | .assertion _ => none
  else
    let text ← flags.skip? text.tail
    let (last, text) ← classElement? flags text
    match first, last with
    | .char first _, .char last _ => do
        let first ← classChar? flags first
        let last ← classChar? flags last
        guard (first ≤ last)
        pure (⟨.range first last, 0⟩, text)
    | _, _ => none

/-- Reads on until the outermost of the open brackets is closed. Each round takes at least one
character of the text, so `fuel` need not exceed its length. -/
def readBrackets? (flags : Flags) :
    (fuel : Nat) → (outer : List Bracket) → Bracket → Text → Option (ClassPart × Text)
  | 0, _, _, _ => none
  | fuel + 1, outer, bracket, text =>
      match flags.skip text with
      | [] => none
      | '[' :: rest =>
          match asciiClass? rest with
          | some (named, negated, rest) => do
              let chars ← closedSet? flags negated named
              readBrackets? flags fuel outer (bracket.add ⟨chars, 0⟩) rest
          | none => do
              let (inner, rest) ← openBracket? flags rest
              readBrackets? flags fuel (bracket :: outer) inner rest
      | ']' :: rest => do
          let part ← bracket.close? flags
          match outer with
          | [] => pure (part, rest)
          | parent :: outer => readBrackets? flags fuel outer (parent.add part) rest
      | '&' :: '&' :: rest => readBrackets? flags fuel outer (bracket.operate flags .inter) rest
      | '-' :: '-' :: rest => readBrackets? flags fuel outer (bracket.operate flags .diff) rest
      | '~' :: '~' :: rest => readBrackets? flags fuel outer (bracket.operate flags .symmDiff) rest
      | element => do
          let (part, rest) ← classRange? flags element
          readBrackets? flags fuel outer (bracket.add part) rest

def bracketClass? (flags : Flags) (text : Text) : Option (ClassPart × Text) := do
  let (bracket, rest) ← openBracket? flags text
  readBrackets? flags text.length [] bracket rest

end ConditionalText.Pattern
