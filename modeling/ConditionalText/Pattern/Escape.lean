import ConditionalText.Pattern.ClassName
import ConditionalText.Pattern.Flags

/-!
Escapes: what a backslash and the characters behind it stand for.
-/

namespace ConditionalText.Pattern

inductive Escape where
  | char (c : Char) (isByte : Bool)
  | set (chars : CharSet)
  | assertion (condition : Assertion)

def scalar? (code : Nat) : Option Char :=
  if code.isValidChar then some (Char.ofNat code) else none

def isHexDigit (c : Char) : Bool :=
  (Unicode.hexDigit? c).isSome

def hexDigits? (flags : Flags) : (count : Nat) → Text → Option (Text × Text)
  | 0, text => some ([], text)
  | count + 1, text =>
      match flags.skip text with
      | [] => none
      | c :: rest =>
          if isHexDigit c then
            (hexDigits? flags count rest).map (fun found => (c :: found.1, found.2))
          else none

def numbered? (flags : Flags) (digits : Nat) (text : Text) : Option (Escape × Text) := do
  match flags.skip text with
  | '{' :: inner =>
      let (code, rest) ← braced? flags false inner
      guard (!code.isEmpty && code.all isHexDigit)
      let c ← scalar? (Unicode.hexValue code)
      pure (.char c false, rest)
  | fixed =>
      let (code, rest) ← hexDigits? flags digits fixed
      let c ← scalar? (Unicode.hexValue code)
      pure (.char c (digits == 2), rest)

def splitOnce? (separator : Text) : Text → Option (Text × Text)
  | [] => none
  | c :: rest =>
      if separator.isPrefixOf (c :: rest) then some ([], (c :: rest).drop separator.length)
      else (splitOnce? separator rest).map (fun found => (c :: found.1, found.2))

def namedClass? (name : Text) : Option (CharSet × Bool) :=
  match splitOnce? ['!', '='] name with
  | some (property, value) => (ClassName.byValue? property value).map (·, true)
  | none =>
      match (splitOnce? [':'] name) <|> (splitOnce? ['='] name) with
      | some (property, value) => (ClassName.byValue? property value).map (·, false)
      | none => (ClassName.byName? name).map (·, false)

def propertyClass? (flags : Flags) (negated : Bool) (text : Text) : Option (Escape × Text) := do
  guard flags.unicode
  match flags.skip text with
  | [] => none
  | '{' :: inner =>
      let (name, rest) ← braced? flags false inner
      let (chars, opposite) ← namedClass? name
      pure (.set (.complementIf (negated != opposite) (flags.closeCase chars)), rest)
  | c :: rest =>
      guard (c != '\\')
      let chars ← ClassName.byName? [c]
      pure (.set (.complementIf negated (flags.closeCase chars)), rest)

/-- A class that has a letter; its capital is the complement, which must stay within characters. -/
def letterClass? (flags : Flags) (letter : Char) : Option CharSet := do
  let chars ← ClassName.ofLetter? flags.unicode letter.toLower
  guard (flags.unicode || !letter.isUpper)
  pure (.complementIf letter.isUpper chars)

def isMeta (c : Char) : Bool :=
  "\\.+*?()|[]\x7b\x7d^$#&-~".toList.contains c

/-- Characters that a backslash turns into themselves: ASCII, but no letters, digits or angles. -/
def isEscapable (c : Char) : Bool :=
  isMeta c || (c.toNat < 128 && !isAsciiAlphanumeric c && c != '<' && c != '>')

def controlOf? (letter : Char) : Option Char :=
  [('a', '\x07'), ('f', '\x0c'), ('t', '\t'), ('n', '\n'), ('r', '\r'), ('v', '\x0b')].lookup letter

def isEdgeNameChar (c : Char) : Bool :=
  c.isAlpha || c == '-'

def namedEdge? (name : Text) : Option WordEdge :=
  if name = "start".toList then some .start
  else if name = "end".toList then some .stop
  else if name = "start-half".toList then some .startHalf
  else if name = "end-half".toList then some .stopHalf
  else none

/-- What follows the letter of a word boundary. A brace behind it names a kind of edge when a
letter comes next; otherwise it is left for a repetition. -/
def wordBoundary? (flags : Flags) (text : Text) : Option (Escape × Text) :=
  match text with
  | '{' :: inner => do
      let named ← flags.skip? inner
      if (named.head?.map isEdgeNameChar).getD false then
        let (name, rest) ← braced? flags false inner
        let edge ← namedEdge? name
        pure (.assertion (.word edge flags.unicode), rest)
      else pure (.assertion (.word .boundary flags.unicode), text)
  | _ => some (.assertion (.word .boundary flags.unicode), text)

def escape? (flags : Flags) (text : Text) : Option (Escape × Text) :=
  match text with
  | [] => none
  | c :: rest =>
      if c = 'x' then numbered? flags 2 rest
      else if c = 'u' then numbered? flags 4 rest
      else if c = 'U' then numbered? flags 8 rest
      else if c = 'p' ∨ c = 'P' then propertyClass? flags (c == 'P') rest
      else if "dswDSW".toList.contains c then
        (letterClass? flags c).map (fun chars => (.set chars, rest))
      else if isEscapable c then some (.char c false, rest)
      else if c = 'A' then some (.assertion .textStart, rest)
      else if c = 'z' then some (.assertion .textEnd, rest)
      else if c = 'b' then wordBoundary? flags rest
      else if c = 'B' then some (.assertion (.word .inside flags.unicode), rest)
      else if c = '<' then some (.assertion (.word .start flags.unicode), rest)
      else if c = '>' then some (.assertion (.word .stop flags.unicode), rest)
      else (controlOf? c).map (fun control => (.char control false, rest))

end ConditionalText.Pattern
