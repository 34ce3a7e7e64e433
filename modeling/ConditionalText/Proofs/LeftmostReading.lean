import ConditionalText.Proofs.BlockForm
import ConditionalText.Proofs.ByteOffsets

/-!
The leftmost reading of a document, described by byte offsets alone: from where the last block
ended, the next block begins at the least offset at which an opening marker begins that some
closing marker follows, and it ends with the nearest such marker. A document has one such reading,
and it is the list of blocks that the library gives.
-/

namespace ConditionalText

namespace Marker

def OpeningAt (text : Text) (opening : Opening) (start stop : Nat) : Prop :=
  ∃ opened, OpeningForm opening opened ∧ Text.Stands opened text start stop

def ClosingAt (text : Text) (start stop : Nat) : Prop :=
  ∃ closing, ClosingForm closing ∧ Text.Stands closing text start stop

end Marker

namespace Document

open Marker

/-- An opening marker begins at the byte `start`, and some closing marker stands behind it. -/
def StartsAt (text : Text) (start : Nat) : Prop :=
  ∃ opening stop closingStart closingStop,
    OpeningAt text opening start stop ∧ ClosingAt text closingStart closingStop ∧
      stop ≤ closingStart

/-- The block stands in the document: its body reaches from the end of an opening marker to the
nearest closing marker. -/
inductive BlockAt (text : Text) : PlacedBlock → Prop where
  | block {opening : Opening} {body : Text} {start bodyStart bodyStop stop : Nat}
      (opens : OpeningAt text opening start bodyStart)
      (inner : Text.Stands body text bodyStart bodyStop)
      (closes : ClosingAt text bodyStop stop)
      (nearest : ∀ closingStart closingStop, ClosingAt text closingStart closingStop →
        bodyStart ≤ closingStart → bodyStop ≤ closingStart) :
      BlockAt text
        { condition := .ofToken opening.token, agentPattern := opening.agentPattern, body := body,
          start := start, stop := stop }

/-- The blocks are those that a reader finds who starts at the byte `position`. -/
inductive Reading (text : Text) : Nat → List PlacedBlock → Prop where
  | done {position : Nat} (never : ∀ start, position ≤ start → ¬ StartsAt text start) :
      Reading text position []
  | next {position : Nat} {block : PlacedBlock} {others : List PlacedBlock}
      (read : BlockAt text block) (behind : position ≤ block.start)
      (least : ∀ start, position ≤ start → start < block.start → ¬ StartsAt text start)
      (later : Reading text block.stop others) :
      Reading text position (block :: others)

/-! Offsets and splits -/

theorem startsAt_iff {before rest : Text} :
    StartsAt (before ++ rest) before.utf8Length ↔ StartsBlock rest := by
  constructor
  · rintro ⟨opening, stop, closingStart, closingStop, ⟨opened, opens, opensAt⟩,
      ⟨closing, closes, closesAt⟩, behind⟩
    obtain ⟨after, rfl⟩ := opensAt.split_at
    rw [opensAt.stop_eq, ← Text.utf8Length_append] at behind
    rw [← List.append_assoc] at closesAt
    obtain ⟨gap, rest, rfl, _⟩ := closesAt.split behind
    exact ⟨opening, opened, _, opens, ⟨gap, closing, rest, closes, rfl⟩, rfl⟩
  · rintro ⟨opening, opened, later, opens, ⟨gap, closing, after, closes, rfl⟩, rfl⟩
    refine ⟨opening, _, _, _, ⟨opened, opens, before, _, rfl, rfl, rfl⟩,
      ⟨closing, closes, before ++ (opened ++ gap), after, by simp, rfl, rfl⟩, ?_⟩
    simp only [Text.utf8Length_append]
    omega

theorem StartsAt.split {text : Text} {start : Nat} (starts : StartsAt text start) :
    ∃ before rest, text = before ++ rest ∧ start = before.utf8Length := by
  obtain ⟨_, _, _, _, ⟨_, _, before, _, rfl, rfl, _⟩, _⟩ := starts
  exact ⟨before, _, rfl, rfl⟩

/-- Nothing starts between the first byte of a character and the next character. -/
theorem not_startsAt_inside {before rest : Text} {c : Char} {start : Nat}
    (never : ¬ StartsBlock (c :: rest)) (behind : before.utf8Length ≤ start)
    (ahead : start < (before ++ [c]).utf8Length) : ¬ StartsAt (before ++ c :: rest) start := by
  intro starts
  obtain ⟨before', rest', same, rfl⟩ := starts.split
  obtain ⟨middle, rfl, same'⟩ := Text.append_eq_append_of_le same behind
  cases middle with
  | nil =>
      rw [List.append_nil] at starts
      exact never (startsAt_iff.mp starts)
  | cons d middle =>
      simp only [List.cons_append, List.cons.injEq] at same'
      obtain ⟨rfl, _⟩ := same'
      simp only [Text.utf8Length_append, Text.utf8Length_cons, Text.utf8Length_nil] at ahead
      omega

/-- The closing marker behind a body is the nearest one exactly if the body holds none. -/
theorem nearest_iff_unclosed (before after : Text) {body closing : Text}
    (closes : ClosingForm closing) :
    (∀ closingStart closingStop,
      ClosingAt (before ++ (body ++ (closing ++ after))) closingStart closingStop →
        before.utf8Length ≤ closingStart →
          before.utf8Length + body.utf8Length ≤ closingStart) ↔ ¬ HoldsClosing body := by
  constructor
  · rintro nearest ⟨gap, other, rest, otherCloses, rfl⟩
    have stands : Text.Stands other (before ++ ((gap ++ (other ++ rest)) ++ (closing ++ after)))
        (before ++ gap).utf8Length ((before ++ gap).utf8Length + other.utf8Length) :=
      ⟨before ++ gap, rest ++ (closing ++ after), by simp, rfl, rfl⟩
    have notEarlier := nearest _ _ ⟨other, otherCloses, stands⟩
      (by rw [Text.utf8Length_append]; omega)
    obtain ⟨tail, rfl, _⟩ := otherCloses.exists_tail
    have positive := Char.utf8Size_pos '{'
    simp only [Text.utf8Length_append, Text.utf8Length_cons] at notEarlier
    omega
  · rintro unclosed closingStart closingStop ⟨other, otherCloses, stands⟩ behind
    obtain ⟨gap, after', same, rfl⟩ := stands.split behind
    by_contra inside
    have shorter : gap.utf8Length ≤ body.utf8Length := by omega
    obtain ⟨middle, rfl, rest⟩ := Text.append_eq_append_of_le same.symm shorter
    have filled : middle ≠ [] := by
      rintro rfl
      simp at inside
    obtain ⟨tail, rfl, _⟩ := closes.exists_tail
    obtain ⟨otherTail, rfl, absent⟩ := otherCloses.exists_tail
    obtain ⟨gap', within, _⟩ := within_of_mark_notMem absent filled rest
    exact unclosed ⟨gap, _, gap', otherCloses, by rw [within]⟩

theorem blockAt_iff {text : Text} {block : PlacedBlock} :
    BlockAt text block ↔
      ∃ before source after, BlockForm block.toBlock source ∧
        text = before ++ (source ++ after) ∧ block.start = before.utf8Length ∧
        block.stop = before.utf8Length + source.utf8Length := by
  constructor
  · intro stands
    cases stands with
    | @block opening body start bodyStart bodyStop stop opensAt inner closesAt nearest =>
        obtain ⟨opened, opens, before, rest, rfl, rfl, rfl⟩ := opensAt
        obtain ⟨closing, closes, closesAt⟩ := closesAt
        rw [← List.append_assoc, ← Text.utf8Length_append] at inner nearest
        obtain ⟨rest, rfl⟩ := inner.split_at
        rw [inner.stop_eq] at closesAt nearest
        rw [← List.append_assoc, ← List.append_assoc, ← Text.utf8Length_append] at closesAt
        obtain ⟨after, rfl⟩ := closesAt.split_at
        have unclosed := (nearest_iff_unclosed _ after closes).mp nearest
        refine ⟨before, opened ++ (body ++ closing), after, .block opens unclosed closes,
          by simp, rfl, ?_⟩
        rw [closesAt.stop_eq]
        simp only [Text.utf8Length_append]
        omega
  · rintro ⟨before, source, after, form, rfl, start_eq, stop_eq⟩
    obtain ⟨⟨condition, agentPattern, body⟩, start, stop⟩ := block
    subst start_eq stop_eq
    cases form with
    | @block opening opened _ closing opens unclosed closes =>
        have whole : before ++ (opened ++ (body ++ closing) ++ after) =
            (before ++ opened) ++ (body ++ (closing ++ after)) := by simp
        have nearest := (nearest_iff_unclosed (before ++ opened) after closes).mpr unclosed
        rw [← whole] at nearest
        have stop_eq : before.utf8Length + (opened ++ (body ++ closing)).utf8Length =
            (before ++ opened ++ body).utf8Length + closing.utf8Length := by
          simp only [Text.utf8Length_append]
          omega
        rw [stop_eq]
        exact .block ⟨opened, opens, before, body ++ (closing ++ after), by simp, rfl,
            Text.utf8Length_append _ _⟩
          ⟨before ++ opened, closing ++ after, whole, rfl, Text.utf8Length_append _ _⟩
          ⟨closing, closes, before ++ opened ++ body, after, by simp, rfl, rfl⟩
          (by simpa only [Text.utf8Length_append] using nearest)

/-! The reading of a document -/

theorem BlockAt.unique {text : Text} {left right : PlacedBlock} (first : BlockAt text left)
    (second : BlockAt text right) (same : left.start = right.start) : left = right := by
  obtain ⟨before, source, after, form, rfl, start_eq, stop_eq⟩ := blockAt_iff.mp first
  obtain ⟨before', source', after', form', split, start_eq', stop_eq'⟩ := blockAt_iff.mp second
  obtain ⟨rfl, behind⟩ := Text.append_inj_of_eq split (by omega)
  obtain ⟨sameBlock, rfl⟩ := blockForm_unique form form' behind
  obtain ⟨leftContent, leftStart, leftStop⟩ := left
  obtain ⟨rightContent, rightStart, rightStop⟩ := right
  simp_all

theorem BlockAt.startsAt {text : Text} {block : PlacedBlock} (stands : BlockAt text block) :
    StartsAt text block.start := by
  cases stands with
  | block opensAt inner closesAt nearest =>
      have bodyStop_eq := inner.stop_eq
      exact ⟨_, _, _, _, opensAt, closesAt, by omega⟩

theorem Reading.unique {text : Text} {position : Nat} {left right : List PlacedBlock}
    (first : Reading text position left) (second : Reading text position right) :
    left = right := by
  induction first generalizing right with
  | done never =>
      cases second with
      | done => rfl
      | next read behind => exact absurd read.startsAt (never _ behind)
  | @next position block others read behind least later ih =>
      cases second with
      | done never => exact absurd read.startsAt (never _ behind)
      | @next _ block' others' read' behind' least' later' =>
          rcases Nat.lt_trichotomy block.start block'.start with before | same | before
          · exact absurd read.startsAt (least' _ behind before)
          · obtain rfl := read.unique read' same
            rw [ih later']
          · exact absurd read'.startsAt (least _ behind' before)

/-- A reading may as well begin earlier if nothing starts in between. -/
theorem Reading.of_later {text : Text} {position position' : Nat} {blocks : List PlacedBlock}
    (reading : Reading text position' blocks) (behind : position ≤ position')
    (between : ∀ start, position ≤ start → start < position' → ¬ StartsAt text start) :
    Reading text position blocks := by
  cases reading with
  | done never =>
      refine .done (fun start reached => ?_)
      by_cases inside : start < position'
      · exact between start reached inside
      · exact never start (by omega)
  | next read behind' least later =>
      refine .next read (by omega) (fun start reached ahead => ?_) later
      by_cases inside : start < position'
      · exact between start reached inside
      · exact least start (by omega) ahead

/-- The parts behind an offset hold the blocks of the reading from that offset. -/
theorem reading_pieces (before rest : Text) :
    Reading (before ++ rest) before.utf8Length (place before.utf8Length (pieces rest)) := by
  induction rest using pieces_induction generalizing before with
  | empty =>
      rw [pieces_nil]
      refine .done (fun start reached starts => ?_)
      obtain ⟨opening, stop, _, _, ⟨opened, opens, stands⟩, _⟩ := starts
      obtain ⟨gap, after, split, _⟩ := stands.split reached
      obtain ⟨word, more, _, rfl⟩ := opens.exists_prefix
      simp at split
  | plain c rest never ih =>
      have later := ih (before ++ [c])
      rw [Text.utf8Length_append, List.append_assoc] at later
      rw [pieces_plain never]
      refine later.of_later (Nat.le_add_right _ _) (fun start reached ahead => ?_)
      exact not_startsAt_inside never reached (by rwa [Text.utf8Length_append])
  | block content source rest form ih =>
      have later := ih (before ++ source)
      rw [Text.utf8Length_append, List.append_assoc] at later
      rw [pieces_block form]
      exact .next (blockAt_iff.mpr ⟨before, source, rest, form, rfl, rfl, rfl⟩) (Nat.le_refl _)
        (fun start reached ahead => absurd reached (Nat.not_le_of_lt ahead)) later

/-- The blocks of a document are its one leftmost reading: none is missed, none is made up, and
each is where it is and says what it says. -/
theorem reading_iff_eq_blocks (text : Text) (found : List PlacedBlock) :
    Reading text 0 found ↔ found = blocks text := by
  have leftmost : Reading text 0 (blocks text) := by
    rw [blocks_eq_scan]
    exact reading_pieces [] text
  constructor
  · intro reading
    exact reading.unique leftmost
  · rintro rfl
    exact leftmost

end Document

end ConditionalText
