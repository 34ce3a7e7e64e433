import ConditionalText.Marker.Block
import ConditionalText.Proofs.MarkerForm

/-!
The grammar of blocks, and documents as the parts that the reader cuts them into. Whether a block
begins at a place is settled by the text of the block, so parts can be put together and taken
apart without reading anew what lies around them.
-/

namespace ConditionalText

/-- The ways to write a block. -/
inductive BlockForm : Block → Text → Prop where
  | block {opening : Opening} {opened body closing : Text}
      (opens : Marker.OpeningForm opening opened) (unclosed : ¬ Marker.HoldsClosing body)
      (closes : Marker.ClosingForm closing) :
      BlockForm ⟨.ofToken opening.token, opening.agentPattern, body⟩ (opened ++ (body ++ closing))

/-- The text begins with an opening marker that some closing marker follows. -/
def StartsBlock (text : Text) : Prop :=
  ∃ opening opened later,
    Marker.OpeningForm opening opened ∧ Marker.HoldsClosing later ∧ text = opened ++ later

theorem StartsBlock.append_right {text : Text} (starts : StartsBlock text) (after : Text) :
    StartsBlock (text ++ after) := by
  rcases starts with ⟨opening, opened, later, opens, holds, rfl⟩
  exact ⟨opening, opened, later ++ after, opens, holds.append_right after, by simp⟩

theorem Marker.OpeningForm.exists_prefix {opening : Opening} {opened : Text}
    (form : Marker.OpeningForm opening opened) :
    ∃ word more : Text, word.lowerAscii = Marker.keyword ∧ opened = '{' :: (word ++ more) := by
  cases form with
  | marker folded => exact ⟨_, _, folded, rfl⟩

theorem BlockForm.exists_prefix {block : Block} {source : Text} (form : BlockForm block source) :
    ∃ word more : Text, word.lowerAscii = Marker.keyword ∧ source = '{' :: (word ++ more) := by
  cases form with
  | @block opening opened body closing opens unclosed closes =>
      rcases opens.exists_prefix with ⟨word, more, folded, rfl⟩
      exact ⟨word, more ++ (body ++ closing), folded, by simp⟩

theorem BlockForm.agentPattern_ne_empty {block : Block} {source : Text}
    (form : BlockForm block source) : block.agentPattern ≠ some [] := by
  cases form with
  | block opens unclosed closes =>
      cases opens with
      | marker folded spaced blank named alphanumeric attributed ended =>
          cases attributed with
          | absent => simp
          | present blank' named' filled unquoted => simpa using filled

/-- The block at another place: what stood at the byte `origin` now stands at the byte `target`. -/
def PlacedBlock.moved (origin target : Nat) (block : PlacedBlock) : PlacedBlock :=
  { block with
    start := target + (block.start - origin), stop := target + (block.stop - origin) }

namespace Document

/-- The reader of blocks finds exactly what the grammar calls one. -/
theorem block?_eq_some_iff {text rest : Text} {block : Block} :
    block? text = some (block, rest) ↔
      ∃ source : Text, BlockForm block source ∧ text = source ++ rest := by
  simp only [block?, Option.bind_eq_bind, Option.bind_eq_some_iff, Option.pure_def,
    Option.some.injEq, Prod.mk.injEq, Prod.exists]
  constructor
  · rintro ⟨opening, inner, opened, body, rest, closed, rfl, rfl⟩
    rcases Marker.opening?_eq_some_iff.mp opened with ⟨openingText, opens, rfl⟩
    rcases Marker.untilClosing?_eq_some_iff.mp closed with ⟨unclosed, closing, closes, rfl⟩
    exact ⟨_, .block opens unclosed closes, by simp⟩
  · rintro ⟨source, form, rfl⟩
    cases form with
    | @block opening opened body closing opens unclosed closes =>
        exact ⟨opening, body ++ (closing ++ rest),
          Marker.opening?_eq_some_iff.mpr ⟨opened, opens, by simp⟩, body, rest,
          Marker.untilClosing?_eq_some_iff.mpr ⟨unclosed, closing, closes, rfl⟩, rfl, rfl⟩

theorem blockForm_unique {block block' : Block} {source source' rest rest' : Text}
    (form : BlockForm block source) (form' : BlockForm block' source')
    (same : source ++ rest = source' ++ rest') : block = block' ∧ source = source' := by
  have found := block?_eq_some_iff.mpr ⟨source, form, (rfl : source ++ rest = source ++ rest)⟩
  have found' := block?_eq_some_iff.mpr ⟨source', form', same⟩
  rw [found, Option.some.injEq, Prod.mk.injEq] at found'
  rcases found' with ⟨sameBlock, sameRest⟩
  subst sameRest
  exact ⟨sameBlock, List.append_cancel_right same⟩

theorem block?_eq_none_iff {text : Text} : block? text = none ↔ ¬ StartsBlock text := by
  constructor
  · rintro missing ⟨opening, opened, later, opens, holds, rfl⟩
    obtain ⟨⟨body, rest⟩, closed⟩ :=
      Option.isSome_iff_exists.mp (Marker.untilClosing?_isSome_iff.mpr holds)
    have read := Marker.opening?_eq_some_iff.mpr ⟨opened, opens, (rfl : _ = opened ++ later)⟩
    simp [block?, read, closed] at missing
  · intro never
    cases found : block? text with
    | none => rfl
    | some pair =>
        rcases pair with ⟨block, rest⟩
        rcases block?_eq_some_iff.mp found with ⟨source, form, rfl⟩
        cases form with
        | @block opening opened body closing opens unclosed closes =>
            exact absurd ⟨opening, opened, body ++ (closing ++ rest), opens,
              ⟨body, closing, rest, closes, rfl⟩, by simp⟩ never

/-! Parts -/

def sources (parts : List Piece) : Text :=
  parts.flatMap Piece.source

@[simp] theorem sources_nil : sources [] = [] := rfl

@[simp] theorem sources_cons (part : Piece) (parts : List Piece) :
    sources (part :: parts) = part.source ++ sources parts := rfl

@[simp] theorem sources_append (earlier later : List Piece) :
    sources (earlier ++ later) = sources earlier ++ sources later :=
  List.flatMap_append

@[simp] theorem pieces_nil : pieces [] = [] := by
  rw [pieces]

theorem pieces_plain {c : Char} {text : Text} (never : ¬ StartsBlock (c :: text)) :
    pieces (c :: text) = .plain c :: pieces text := by
  have missing := block?_eq_none_iff.mpr never
  rw [pieces]
  split
  · rename_i found
    rw [missing] at found
    cases found
  · rfl

theorem pieces_block {block : Block} {source : Text} (form : BlockForm block source)
    (rest : Text) : pieces (source ++ rest) = .block source block :: pieces rest := by
  have found := block?_eq_some_iff.mpr ⟨source, form, (rfl : _ = source ++ rest)⟩
  rcases form.exists_prefix with ⟨word, more, _, rfl⟩
  rw [List.cons_append] at found ⊢
  rw [pieces]
  split
  · rename_i block' rest' found'
    rw [found] at found'
    cases found'
    simp only [← List.cons_append, List.length_append, Nat.add_sub_cancel, List.take_left']
  · rename_i missing
    rw [found] at missing
    cases missing

/-- Induction along the parts of a document. -/
theorem pieces_induction {motive : Text → Prop} (empty : motive [])
    (plain : ∀ c rest, ¬ StartsBlock (c :: rest) → motive rest → motive (c :: rest))
    (block : ∀ block source rest, BlockForm block source → motive rest → motive (source ++ rest))
    (text : Text) : motive text := by
  induction text using pieces.induct with
  | case1 => exact empty
  | case2 c tail content rest found ih =>
      rcases block?_eq_some_iff.mp found with ⟨source, form, split⟩
      rw [split]
      exact block content source rest form ih
  | case3 c tail missing ih => exact plain c tail (block?_eq_none_iff.mp missing) ih

@[simp] theorem sources_pieces (text : Text) : sources (pieces text) = text := by
  induction text using pieces_induction with
  | empty => simp
  | plain c rest never ih =>
      rw [pieces_plain never, sources_cons, ih]
      rfl
  | block content source rest form ih =>
      rw [pieces_block form, sources_cons, ih]
      rfl

theorem blockForm_of_mem_pieces {text source : Text} {content : Block}
    (member : Piece.block source content ∈ pieces text) : BlockForm content source := by
  induction text using pieces_induction with
  | empty => simp at member
  | plain c rest never ih =>
      rw [pieces_plain never] at member
      exact ih (by simpa using member)
  | block other otherSource rest form ih =>
      rw [pieces_block form, List.mem_cons] at member
      rcases member with same | later
      · cases same
        exact form
      · exact ih later

theorem pieces_later {text : Text} {earlier later : List Piece}
    (cut : pieces text = earlier ++ later) : pieces (sources later) = later := by
  induction text using pieces_induction generalizing earlier with
  | empty =>
      rcases List.append_eq_nil_iff.mp (pieces_nil.symm.trans cut).symm with ⟨_, rfl⟩
      simp
  | plain c rest never ih =>
      cases earlier with
      | nil => rw [← List.nil_append later, ← cut, sources_pieces]
      | cons part earlier =>
          rw [pieces_plain never, List.cons_append, List.cons.injEq] at cut
          exact ih cut.2
  | block content source rest form ih =>
      cases earlier with
      | nil => rw [← List.nil_append later, ← cut, sources_pieces]
      | cons part earlier =>
          rw [pieces_block form, List.cons_append, List.cons.injEq] at cut
          exact ih cut.2

/-- Some parts that a document begins with are all parts of the text that they stand for. -/
theorem pieces_earlier {text : Text} {earlier later : List Piece}
    (cut : pieces text = earlier ++ later) : pieces (sources earlier) = earlier := by
  induction text using pieces_induction generalizing earlier with
  | empty =>
      rcases List.append_eq_nil_iff.mp (pieces_nil.symm.trans cut).symm with ⟨rfl, _⟩
      simp
  | plain c rest never ih =>
      cases earlier with
      | nil => simp
      | cons part earlier =>
          rw [pieces_plain never, List.cons_append, List.cons.injEq] at cut
          obtain ⟨rfl, cut⟩ := cut
          have whole : rest = sources earlier ++ sources later := by
            rw [← sources_append, ← cut, sources_pieces]
          have never' : ¬ StartsBlock (c :: sources earlier) := by
            intro starts
            rw [whole] at never
            exact never (starts.append_right (sources later))
          rw [sources_cons]
          exact (pieces_plain never').trans (congrArg _ (ih cut))
  | block content source rest form ih =>
      cases earlier with
      | nil => simp
      | cons part earlier =>
          rw [pieces_block form, List.cons_append, List.cons.injEq] at cut
          obtain ⟨rfl, cut⟩ := cut
          rw [sources_cons]
          exact (pieces_block form _).trans (congrArg _ (ih cut))

/-! Places -/

theorem place_append (offset : Nat) (earlier later : List Piece) :
    place offset (earlier ++ later) =
      place offset earlier ++ place (offset + (sources earlier).utf8Length) later := by
  induction earlier generalizing offset with
  | nil => simp [place]
  | cons part earlier ih =>
      cases part with
      | plain c => simp [place, ih, Piece.source, Nat.add_assoc]
      | block source content => simp [place, ih, Piece.source, Nat.add_assoc]

theorem place_moved (origin target distance : Nat) (parts : List Piece) :
    place (target + distance) parts =
      (place (origin + distance) parts).map (PlacedBlock.moved origin target) := by
  induction parts generalizing distance with
  | nil => rfl
  | cons part parts ih =>
      cases part with
      | plain c =>
          rw [place, place, Nat.add_assoc, Nat.add_assoc]
          exact ih _
      | block source content =>
          simp only [place, List.map_cons, Nat.add_assoc, ih]
          simp only [PlacedBlock.moved, List.cons.injEq, PlacedBlock.mk.injEq, true_and, and_true]
          omega

theorem exists_part_of_mem_place {block : PlacedBlock} {parts : List Piece} {offset : Nat}
    (member : block ∈ place offset parts) :
    ∃ earlier source later, parts = earlier ++ .block source block.toBlock :: later ∧
      block.start = offset + (sources earlier).utf8Length ∧
      block.stop = block.start + source.utf8Length := by
  induction parts generalizing offset with
  | nil => simp [place] at member
  | cons part parts ih =>
      cases part with
      | plain c =>
          rcases ih member with ⟨earlier, source, later, rfl, start, stop⟩
          exact ⟨.plain c :: earlier, source, later, rfl,
            by simp [start, Piece.source, Nat.add_assoc], stop⟩
      | block source content =>
          rcases List.mem_cons.mp member with same | behind
          · subst same
            exact ⟨[], source, parts, rfl, by simp, rfl⟩
          · rcases ih behind with ⟨earlier, source', later, rfl, start, stop⟩
            exact ⟨.block source content :: earlier, source', later, rfl,
              by simp [start, Piece.source, Nat.add_assoc], stop⟩

theorem place_pieces_of_not_mayContain {text : Text} (absent : Marker.mayContain text = false)
    (offset : Nat) : place offset (pieces text) = [] := by
  induction text using pieces_induction generalizing offset with
  | empty =>
      rw [pieces_nil]
      rfl
  | plain c rest never ih =>
      rw [Marker.mayContain, Bool.or_eq_false_iff] at absent
      rw [pieces_plain never]
      exact ih absent.2 _
  | block content source rest form ih =>
      rcases form.exists_prefix with ⟨word, more, folded, rfl⟩
      have whole : '{' :: (word ++ more) ++ rest = [] ++ '{' :: (word ++ (more ++ rest)) := by simp
      rw [whole, Marker.mayContain_append [] folded] at absent
      cases absent

/-- Where the quick test finds nothing there is no block, so it spares work and nothing else. -/
theorem blocks_eq_scan (text : Text) : blocks text = scan text := by
  rw [blocks]
  split
  · rfl
  · rename_i absent
    rw [scan, place_pieces_of_not_mayContain (by simpa using absent)]

theorem exists_part_of_mem_blocks {text : Text} {block : PlacedBlock}
    (member : block ∈ blocks text) :
    ∃ earlier source later, pieces text = earlier ++ .block source block.toBlock :: later ∧
      BlockForm block.toBlock source ∧ block.start = (sources earlier).utf8Length ∧
      block.stop = block.start + source.utf8Length := by
  rw [blocks_eq_scan] at member
  rcases exists_part_of_mem_place member with ⟨earlier, source, later, cut, start, stop⟩
  have present : Piece.block source block.toBlock ∈ pieces text := by
    rw [cut]
    simp
  exact ⟨earlier, source, later, cut, blockForm_of_mem_pieces present, by omega, stop⟩

theorem blocks_eq_of_cut {text source : Text} {content : Block} {earlier later : List Piece}
    (cut : pieces text = earlier ++ .block source content :: later) :
    blocks text =
      place 0 earlier ++
        { content with
          start := (sources earlier).utf8Length
          stop := (sources earlier ++ source).utf8Length } ::
        place (sources earlier ++ source).utf8Length later := by
  rw [blocks_eq_scan, scan, cut, place_append, place, Nat.zero_add, Text.utf8Length_append]

end Document

end ConditionalText
