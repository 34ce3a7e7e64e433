import ConditionalText.Pattern.CharSet
import ConditionalText.Text.Basic

/-!
Patterns for user agents as trees, and what it means for a pattern to match a stretch of a text.
The flags in force are already part of each leaf; whether a repetition is greedy is recorded, but
does not decide what matches.
-/

namespace ConditionalText

inductive WordEdge where
  | boundary
  | inside
  | start
  | stop
  | startHalf
  | stopHalf
  deriving Repr, DecidableEq

inductive Assertion where
  | textStart
  | textEnd
  | lineStart
  | lineEnd
  /-- Lines end with a line feed, a carriage return, or both together. -/
  | anyLineStart
  | anyLineEnd
  | word (edge : WordEdge) (unicode : Bool)
  deriving Repr, DecidableEq

def isAsciiWordChar (c : Char) : Bool :=
  isAsciiAlphanumeric c || c == '_'

def isWordChar (unicode : Bool) (c : Char) : Bool :=
  if unicode then Unicode.word.contains c else isAsciiWordChar c

def WordEdge.holds (edge : WordEdge) (before after : Bool) : Bool :=
  match edge with
  | .boundary => before != after
  | .inside => before == after
  | .start => !before && after
  | .stop => before && !after
  | .startHalf => !before
  | .stopHalf => !after

def Assertion.holds (assertion : Assertion) (previous next : Option Char) : Bool :=
  match assertion with
  | .textStart => previous.isNone
  | .textEnd => next.isNone
  | .lineStart => previous.isNone || previous == some '\n'
  | .lineEnd => next.isNone || next == some '\n'
  | .anyLineStart =>
      previous.isNone || previous == some '\n' || (previous == some '\r' && next != some '\n')
  | .anyLineEnd =>
      next.isNone || next == some '\r' || (next == some '\n' && previous != some '\r')
  | .word edge unicode =>
      edge.holds (previous.any (isWordChar unicode)) (next.any (isWordChar unicode))

inductive Pattern where
  | empty
  | set (chars : CharSet)
  | assertion (condition : Assertion)
  | group (inner : Pattern)
  | concat (first second : Pattern)
  | alternation (left right : Pattern)
  /-- At least `least` times in a row, and at most `extra` times more if that is a number. -/
  | repetition (inner : Pattern) (least : Nat) (extra : Option Nat) (greedy : Bool)
  deriving Repr

namespace Pattern

/-- A stretch of text made of `n` stretches in a row, each of which satisfies `one`. The arguments
of `one` are what stands before a stretch, the stretch itself, and what stands after it. -/
def Times (one : Text → Text → Text → Prop) : Nat → Text → Text → Text → Prop
  | 0, _, within, _ => within = []
  | n + 1, before, within, after =>
      ∃ first others, within = first ++ others ∧ one before first (others ++ after) ∧
        Times one n (before ++ first) others after

/-- The pattern matches `within` where that stands between `before` and `after`. -/
def Matches : Pattern → Text → Text → Text → Prop
  | .empty, _, within, _ => within = []
  | .set chars, _, within, _ => ∃ c, within = [c] ∧ chars.contains c = true
  | .assertion condition, before, within, after =>
      within = [] ∧ condition.holds before.getLast? after.head? = true
  | .group inner, before, within, after => inner.Matches before within after
  | .concat first second, before, within, after =>
      ∃ left right, within = left ++ right ∧ first.Matches before left (right ++ after) ∧
        second.Matches (before ++ left) right after
  | .alternation left right, before, within, after =>
      left.Matches before within after ∨ right.Matches before within after
  | .repetition inner least extra _, before, within, after =>
      ∃ n, least ≤ n ∧ (∀ more, extra = some more → n ≤ least + more) ∧
        Times inner.Matches n before within after

def Occurs (pattern : Pattern) (text : Text) : Prop :=
  ∃ before within after, text = before ++ within ++ after ∧ pattern.Matches before within after

/-- Whether the pattern can match nothing but the empty stretch, by its form alone. -/
def onlyEmpty : Pattern → Bool
  | .empty => true
  | .set _ => false
  | .assertion _ => true
  | .group inner => inner.onlyEmpty
  | .concat first second => first.onlyEmpty && second.onlyEmpty
  | .alternation left right => left.onlyEmpty && right.onlyEmpty
  | .repetition inner least extra _ => inner.onlyEmpty || (least == 0 && extra == some 0)

def concatAll : List Pattern → Pattern
  | [] => .empty
  | [pattern] => pattern
  | pattern :: others => .concat pattern (concatAll others)

def alternatives (first : Pattern) : List Pattern → Pattern
  | [] => first
  | second :: others => .alternation first (alternatives second others)

end Pattern

end ConditionalText
