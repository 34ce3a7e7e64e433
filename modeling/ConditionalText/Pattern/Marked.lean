import ConditionalText.Pattern.Tree

/-!
Searching for a pattern in time proportional to the lengths of pattern and text. A pattern is
unfolded into an expression whose character sets carry marks; a marked set is one that the last
character has just matched on some way through the expression. One pass over the text moves all
marks at once, so the order of alternatives and the greed of repetitions have no part in it.
-/

namespace ConditionalText

/-- An expression with a mark on each of its character sets. -/
inductive Marked where
  | empty
  | set (chars : CharSet) (mark : Bool)
  | assertion (condition : Assertion)
  | concat (first second : Marked)
  | alternation (left right : Marked)
  | star (inner : Marked)
  deriving Repr

namespace Marked

def nullable (previous next : Option Char) : Marked → Bool
  | .empty => true
  | .set _ _ => false
  | .assertion condition => condition.holds previous next
  | .concat first second => nullable previous next first && nullable previous next second
  | .alternation left right => nullable previous next left || nullable previous next right
  | .star _ => true

def finished (previous next : Option Char) : Marked → Bool
  | .empty => false
  | .set _ mark => mark
  | .assertion _ => false
  | .concat first second =>
      finished previous next second ||
        (finished previous next first && nullable previous next second)
  | .alternation left right => finished previous next left || finished previous next right
  | .star inner => finished previous next inner

/-- Moves all marks over the character `c`, which stands after `previous`. When `enter` is set, a
way through the expression may also begin just before `c`. -/
def advance (previous : Option Char) (c : Char) (enter : Bool) : Marked → Marked
  | .empty => .empty
  | .set chars _ => .set chars (enter && chars.contains c)
  | .assertion condition => .assertion condition
  | .concat first second =>
      .concat (advance previous c enter first)
        (advance previous c
          ((enter && nullable previous (some c) first) || finished previous (some c) first) second)
  | .alternation left right =>
      .alternation (advance previous c enter left) (advance previous c enter right)
  | .star inner => .star (advance previous c (enter || finished previous (some c) inner) inner)

/-- Whether some way through the expression ends somewhere in the text, which follows `previous`. -/
def search (previous : Option Char) (expression : Marked) : Text → Bool
  | [] => nullable previous none expression || finished previous none expression
  | c :: rest =>
      nullable previous (some c) expression || finished previous (some c) expression ||
        search (some c) (advance previous c true expression) rest

def optional (inner : Marked) : Marked :=
  .alternation inner .empty

def copies (inner : Marked) : (count : Nat) → (rest : Marked) → Marked
  | 0, rest => rest
  | count + 1, rest => .concat inner (copies inner count rest)

end Marked

namespace Pattern

/-- The pattern as an expression without marks. Repeating what can only be empty is no better than
doing it once. -/
def unfold : Pattern → Marked
  | .empty => .empty
  | .set chars => .set chars false
  | .assertion condition => .assertion condition
  | .group inner => inner.unfold
  | .concat first second => .concat first.unfold second.unfold
  | .alternation left right => .alternation left.unfold right.unfold
  | .repetition inner least extra _ =>
      if least = 0 ∧ (inner.onlyEmpty ∨ extra = some 0) then .empty
      else if inner.onlyEmpty then inner.unfold
      else match extra with
        | none => inner.unfold.copies least (.star inner.unfold)
        | some more =>
            inner.unfold.copies least (inner.unfold.optional.copies more .empty)

def occursIn (pattern : Pattern) (text : Text) : Bool :=
  Marked.search none pattern.unfold text

end Pattern

end ConditionalText
