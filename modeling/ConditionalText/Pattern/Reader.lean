import ConditionalText.Pattern.Bracket
import ConditionalText.Unicode.Revision

/-!
Reading the text of a pattern. The reader keeps the groups that are still open; each has the flags
in force, the elements of the branch that it is in, and its finished branches.
-/

namespace ConditionalText.Pattern

structure Nested where
  pattern : Pattern
  depth : Nat

/-- An element of a branch. A group that only sets flags counts as an element, but it matches
nothing and cannot be repeated. -/
inductive Element where
  | flags
  | part (nested : Nested)

def Element.nested? : Element → Option Nested
  | .flags => none
  | .part nested => some nested

structure OpenGroup where
  captures : Bool
  flags : Flags
  elements : List Element
  branches : List Nested

namespace OpenGroup

def start (captures : Bool) (flags : Flags) : OpenGroup :=
  ⟨captures, flags, [], []⟩

def add (group : OpenGroup) (nested : Nested) : OpenGroup :=
  { group with elements := .part nested :: group.elements }

def addSet (group : OpenGroup) (chars : CharSet) (depth : Nat) : OpenGroup :=
  group.add ⟨.set chars, depth⟩

def addAssertion (group : OpenGroup) (condition : Assertion) : OpenGroup :=
  group.add ⟨.assertion condition, 0⟩

def setFlags (group : OpenGroup) (flags : Flags) : OpenGroup :=
  { group with flags := flags, elements := .flags :: group.elements }

def branch (group : OpenGroup) : Nested :=
  let parts := group.elements.reverse.filterMap Element.nested?
  let joined := concatAll (parts.map Nested.pattern)
  match group.elements with
  | [] => ⟨joined, 0⟩
  | [_] => ⟨joined, (parts.map Nested.depth).foldl max 0⟩
  | _ => ⟨joined, depthOver (parts.map Nested.depth)⟩

def nextBranch (group : OpenGroup) : OpenGroup :=
  { group with elements := [], branches := group.branch :: group.branches }

def alternation (group : OpenGroup) : Nested :=
  match (group.branch :: group.branches).reverse with
  | [] => ⟨.empty, 0⟩
  | [only] => only
  | first :: others =>
      ⟨alternatives first.pattern (others.map Nested.pattern),
        depthOver ((first :: others).map Nested.depth)⟩

def close (group : OpenGroup) : Nested :=
  let inner := group.alternation
  ⟨if group.captures then .group inner.pattern else inner.pattern, inner.depth + 1⟩

def repeatLast? (group : OpenGroup) (least : Nat) (extra : Option Nat) (greedy : Bool) :
    Option OpenGroup :=
  match group.elements with
  | .part last :: others =>
      let greedy := greedy != group.flags.swapGreed
      some { group with
        elements := .part ⟨.repetition last.pattern least extra greedy, last.depth + 1⟩ :: others }
  | _ => none

end OpenGroup

def isNameStart (c : Char) : Bool :=
  c == '_' || Unicode.isAlphabetic c

def isNameChar (c : Char) : Bool :=
  c == '_' || c == '.' || c == '[' || c == ']' || Unicode.isAlphabetic c ||
    Unicode.isNumber c

def groupName? (text : Text) : Option (Text × Text) :=
  match text.takeWhile (· != '>'), text.dropWhile (· != '>') with
  | c :: name, '>' :: rest =>
      if isNameStart c && name.all isNameChar then some (c :: name, rest) else none
  | _, _ => none

inductive GroupStart where
  | flags (flags : Flags)
  | group (captures : Bool) (flags : Flags)
  | named (name : Text)

/-- Reads on behind an opening parenthesis. Assertions about the text around are not offered. -/
def groupStart? (flags : Flags) (text : Text) : Option (GroupStart × Text) :=
  match flags.skip text with
  | '?' :: '=' :: _ => none
  | '?' :: '!' :: _ => none
  | '?' :: '<' :: '=' :: _ => none
  | '?' :: '<' :: '!' :: _ => none
  | '?' :: '<' :: inner => (groupName? inner).map (fun found => (.named found.1, found.2))
  | '?' :: 'P' :: '<' :: inner => (groupName? inner).map (fun found => (.named found.1, found.2))
  | '?' :: inner =>
      (groupFlags? flags false false [] inner).map (fun (updated, ending, rest) =>
        (if ending = ')' then .flags updated else .group false updated, rest))
  | rest => some (.group true flags, rest)

def count? (text : Text) : Option Nat :=
  let digits := (((text.dropWhile isSpace).reverse).dropWhile isSpace).reverse
  let value := digits.foldl (fun value c => value * 10 + (c.toNat - '0'.toNat)) 0
  if !digits.isEmpty && digits.all Char.isDigit && value < 4294967296 then some value else none

def bounds? (text : Text) : Option (Nat × Option Nat) :=
  match splitOnce? [','] text with
  | none => (count? text).map (fun n => (n, some 0))
  | some (least, []) => (count? least).map (·, none)
  | some (least, most) => do
      let least ← count? least
      let most ← count? most
      guard (least ≤ most)
      pure (least, some (most - least))

def reluctant (text : Text) : Bool × Text :=
  match text with
  | '?' :: rest => (true, rest)
  | rest => (false, rest)

def repeatBySign? (group : OpenGroup) (least : Nat) (extra : Option Nat) (text : Text) :
    Option (OpenGroup × Text) :=
  let (lazy, rest) := reluctant text
  (group.repeatLast? least extra !lazy).map (·, rest)

def repeatByBounds? (group : OpenGroup) (text : Text) : Option (OpenGroup × Text) := do
  let inner ← group.flags.skip? text
  let (written, rest) ← braced? group.flags false inner
  let (least, extra) ← bounds? written
  let (lazy, rest) := reluctant (group.flags.skip rest)
  let repeated ← group.repeatLast? least extra !lazy
  pure (repeated, rest)

def plainElement? (group : OpenGroup) (c : Char) : Option OpenGroup :=
  if c = '.' then group.flags.dot?.map (fun chars => group.addSet chars 0)
  else if c = '^' then some (group.addAssertion group.flags.lineStart)
  else if c = '$' then some (group.addAssertion group.flags.lineEnd)
  else some (group.addSet (group.flags.literal c) 0)

/-- An escape outside brackets. A byte beyond ASCII is no character. -/
def escapedElement? (group : OpenGroup) (escape : Escape) : Option OpenGroup :=
  match escape with
  | .char c isByte =>
      if isByte && !group.flags.unicode && 128 ≤ c.toNat then none
      else some (group.addSet (group.flags.literal c) 0)
  | .set chars => some (group.addSet chars 0)
  | .assertion condition => some (group.addAssertion condition)

def depthLimit : Nat := 250

/-- Reads on to the end of the pattern. Each round takes at least one character of the text, so
`fuel` need not exceed its length by more than one. -/
def readGroups? : (fuel : Nat) → (names : List Text) → (outer : List OpenGroup) → OpenGroup → Text →
    Option Pattern
  | 0, _, _, _, _ => none
  | fuel + 1, names, outer, current, text =>
      match current.flags.skip text with
      | [] =>
          let whole := current.alternation
          if outer.isEmpty && whole.depth ≤ depthLimit then some whole.pattern else none
      | '(' :: rest => do
          let (start, rest) ← groupStart? current.flags rest
          match start with
          | .flags flags => readGroups? fuel names outer (current.setFlags flags) rest
          | .group captures flags =>
              readGroups? fuel names (current :: outer) (.start captures flags) rest
          | .named name =>
              if names.contains name then none
              else readGroups? fuel (name :: names) (current :: outer) (.start true current.flags) rest
      | ')' :: rest =>
          match outer with
          | [] => none
          | parent :: outer => readGroups? fuel names outer (parent.add current.close) rest
      | '|' :: rest => readGroups? fuel names outer current.nextBranch rest
      | '[' :: rest => do
          let (part, rest) ← bracketClass? current.flags rest
          readGroups? fuel names outer (current.addSet part.chars part.depth) rest
      | '?' :: rest => do
          let (repeated, rest) ← repeatBySign? current 0 (some 1) rest
          readGroups? fuel names outer repeated rest
      | '*' :: rest => do
          let (repeated, rest) ← repeatBySign? current 0 none rest
          readGroups? fuel names outer repeated rest
      | '+' :: rest => do
          let (repeated, rest) ← repeatBySign? current 1 none rest
          readGroups? fuel names outer repeated rest
      | '{' :: rest => do
          let (repeated, rest) ← repeatByBounds? current rest
          readGroups? fuel names outer repeated rest
      | '\\' :: rest => do
          let (escape, rest) ← escape? current.flags rest
          let longer ← escapedElement? current escape
          readGroups? fuel names outer longer rest
      | c :: rest => do
          let longer ← plainElement? current c
          readGroups? fuel names outer longer rest

def ofText? (text : Text) : Option Pattern :=
  readGroups? (text.length + 1) [] [] (.start false {}) text

end ConditionalText.Pattern
