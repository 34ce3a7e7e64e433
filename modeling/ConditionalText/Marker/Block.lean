import ConditionalText.Marker.Condition
import ConditionalText.Marker.Opening

/-!
Documents as sequences of plain characters and blocks. A block starts at the first place where an
opening marker begins that some closing marker follows, and ends with the nearest such marker; the
reading goes on behind it, so blocks never overlap and never nest.
-/

namespace ConditionalText

/-- A block without its markers. The pattern, when there is one, is as written. -/
structure Block where
  condition : Condition
  agentPattern : Option Text
  body : Text
  deriving Repr, DecidableEq

/-- A block with the byte range that it and its markers take in the document. -/
structure PlacedBlock extends Block where
  start : Nat
  stop : Nat
  deriving Repr, DecidableEq

inductive Piece where
  | plain (c : Char)
  | block (source : Text) (content : Block)
  deriving Repr, DecidableEq

namespace Piece

def source : Piece → Text
  | .plain c => [c]
  | .block source _ => source

end Piece

namespace Document

def block? (text : Text) : Option (Block × Text) := do
  let (opening, inner) ← Marker.opening? text
  let (body, rest) ← Marker.untilClosing? inner
  pure (⟨.ofToken opening.token, opening.agentPattern, body⟩, rest)

theorem block?_length {text rest : Text} {block : Block}
    (found : block? text = some (block, rest)) : rest.length < text.length := by
  simp only [block?, Option.bind_eq_bind, Option.bind_eq_some_iff, Option.pure_def,
    Option.some.injEq, Prod.mk.injEq, Prod.exists] at found
  obtain ⟨_, _, opened, _, _, closed, _, rfl⟩ := found
  have first := Marker.opening?_length opened
  have second := Marker.untilClosing?_length closed
  omega

def pieces (text : Text) : List Piece :=
  match text with
  | [] => []
  | c :: tail =>
      match _found : block? (c :: tail) with
      | some (block, rest) =>
          .block ((c :: tail).take ((c :: tail).length - rest.length)) block :: pieces rest
      | none => .plain c :: pieces tail
termination_by text.length
decreasing_by
  · exact block?_length (by assumption)
  · simp

def place (offset : Nat) : List Piece → List PlacedBlock
  | [] => []
  | .plain c :: parts => place (offset + c.utf8Size) parts
  | .block source content :: parts =>
      let stop := offset + source.utf8Length
      { content with start := offset, stop := stop } :: place stop parts

def scan (text : Text) : List PlacedBlock :=
  place 0 (pieces text)

/-- Every block of a document. Where no opening marker can be, none is looked for. -/
def blocks (text : Text) : List PlacedBlock :=
  if Marker.mayContain text then scan text else []

end Document

end ConditionalText
