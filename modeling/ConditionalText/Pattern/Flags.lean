import ConditionalText.Pattern.Tree

/-!
The flags of a pattern and the parts of its syntax that several readers share: blank space that the
extended form ignores, and texts in braces.
-/

namespace ConditionalText.Pattern

structure Flags where
  ignoreCase : Bool := false
  multiLine : Bool := false
  dotMatchesLineEnd : Bool := false
  swapGreed : Bool := false
  unicode : Bool := true
  anyLineEnd : Bool := false
  extended : Bool := false
  deriving Repr, DecidableEq

namespace Flags

def update? (flags : Flags) (letter : Char) (value : Bool) : Option Flags :=
  if letter = 'i' then some { flags with ignoreCase := value }
  else if letter = 'm' then some { flags with multiLine := value }
  else if letter = 's' then some { flags with dotMatchesLineEnd := value }
  else if letter = 'U' then some { flags with swapGreed := value }
  else if letter = 'u' then some { flags with unicode := value }
  else if letter = 'R' then some { flags with anyLineEnd := value }
  else if letter = 'x' then some { flags with extended := value }
  else none

def closeCase (flags : Flags) (set : CharSet) : CharSet :=
  if flags.ignoreCase then
    if flags.unicode then .folded set else .foldedAscii set
  else set

/-- What a literal character stands for. A character without case stands for itself alone. -/
def literal (flags : Flags) (c : Char) : CharSet :=
  if flags.ignoreCase then
    if flags.unicode then
      if (foldingOrbit c).all (· == c) then .single c else .folded (.single c)
    else if c.isAlpha then .foldedAscii (.single c) else .single c
  else .single c

def dot? (flags : Flags) : Option CharSet :=
  if !flags.unicode then none
  else if flags.dotMatchesLineEnd then some (.complement .none)
  else if flags.anyLineEnd then some (.complement (.ofChars ['\r', '\n']))
  else some (.complement (.single '\n'))

def lineStart (flags : Flags) : Assertion :=
  if flags.multiLine then if flags.anyLineEnd then .anyLineStart else .lineStart else .textStart

def lineEnd (flags : Flags) : Assertion :=
  if flags.multiLine then if flags.anyLineEnd then .anyLineEnd else .lineEnd else .textEnd

end Flags

def isSpace (c : Char) : Bool :=
  Unicode.whiteSpace.contains c

def dropTrivia (inComment : Bool) : Text → Text
  | [] => []
  | c :: rest =>
      if inComment then dropTrivia (c != '\n') rest
      else if isSpace c then dropTrivia false rest
      else if c = '#' then dropTrivia true rest
      else c :: rest

def Flags.skip (flags : Flags) (text : Text) : Text :=
  if flags.extended then dropTrivia false text else text

def Flags.skip? (flags : Flags) (text : Text) : Option Text :=
  match flags.skip text with
  | [] => none
  | c :: rest => some (c :: rest)

def braced? (flags : Flags) (inComment : Bool) : Text → Option (Text × Text)
  | [] => none
  | c :: rest =>
      if flags.extended && inComment then braced? flags (c != '\n') rest
      else if flags.extended && isSpace c then braced? flags false rest
      else if flags.extended && c == '#' then braced? flags true rest
      else if c = '}' then some ([], rest)
      else (braced? flags false rest).map (fun found => (c :: found.1, found.2))

/-- The flags that a group sets, its end character, and what follows. `seen` holds the letters so
far; none may come twice, and a minus sign must be followed by a letter. -/
def groupFlags? (flags : Flags) (negated dangling : Bool) (seen : List Char) :
    Text → Option (Flags × Char × Text)
  | [] => none
  | c :: rest =>
      if c = ':' then if dangling then none else some (flags, c, rest)
      else if c = ')' then if dangling || (seen.isEmpty && !negated) then none else some (flags, c, rest)
      else if c = '-' then
        if negated then none else groupFlags? flags true true seen rest
      else if seen.contains c then none
      else (flags.update? c (!negated)).bind
        (fun updated => groupFlags? updated negated false (c :: seen) rest)

end ConditionalText.Pattern
