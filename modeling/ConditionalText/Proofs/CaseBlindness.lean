import ConditionalText.Proofs.QuickTest

/-!
Reading is blind to the case of ASCII letters and to no other difference between characters. Each
reader, given a text in lower case, finds what it finds in the text as written, with everything it
found in lower case; and it fails on the one text where it fails on the other. Two texts that agree
up to case have one text in lower case, so their blocks are in the same places and say the same.
-/

namespace ConditionalText

theorem isBlank_toLower (c : Char) : isBlank c.toLower = isBlank c := by
  by_cases letter : isAsciiAlphanumeric c = true
  · have letter' : isAsciiAlphanumeric c.toLower = true := by
      rw [isAsciiAlphanumeric_toLower, letter]
    rw [not_isBlank_of_alphanumeric letter, not_isBlank_of_alphanumeric letter']
  · have same : c.toLower = c :=
      (toLower_eq_iff_of_not_alphanumeric (Bool.eq_false_of_not_eq_true letter)).mpr rfl
    rw [same]

theorem toLower_ne_of_ne {c mark : Char} (other : isAsciiAlphanumeric mark = false)
    (differs : c ≠ mark) : c.toLower ≠ mark :=
  mt (toLower_eq_iff_of_not_alphanumeric other).mp differs

theorem toLower_bne_quote (c : Char) : (c.toLower != '"') = (c != '"') := by
  have same : c.toLower = '"' ↔ c = '"' := toLower_eq_iff_of_not_alphanumeric (by decide)
  rw [Bool.eq_iff_iff, bne_iff_ne, bne_iff_ne, ne_eq, ne_eq, same]

/-- No other letter has this lower case, the long s of other alphabets included. -/
theorem eq_s_or_S_of_toLower_eq {c : Char} (same : c.toLower = 's') : c = 's' ∨ c = 'S' := by
  by_cases ascii : c.toNat ≤ 127
  · have checked : ∀ n : Fin 128, (Char.ofNat n).toLower = 's' →
        Char.ofNat n = 's' ∨ Char.ofNat n = 'S' := by decide
    have small := checked ⟨c.toNat, by omega⟩
    simp only [Char.ofNat_toNat] at small
    exact small same
  · exact Or.inl ((toLower_of_not_ascii ascii).symm.trans same)

theorem utf8Size_toLower (c : Char) : c.toLower.utf8Size = c.utf8Size := by
  rw [← String.length_utf8EncodeChar, ← String.length_utf8EncodeChar,
    ← map_lowerByte_utf8EncodeChar, List.length_map]

namespace Text

/-- The texts differ at most in the case of ASCII letters. -/
def SameUpToCase (text text' : Text) : Prop :=
  text.lowerAscii = text'.lowerAscii

instance (text text' : Text) : Decidable (SameUpToCase text text') :=
  inferInstanceAs (Decidable (text.lowerAscii = text'.lowerAscii))

@[simp] theorem lowerAscii_nil : lowerAscii [] = [] := rfl

@[simp] theorem lowerAscii_cons (c : Char) (text : Text) :
    lowerAscii (c :: text) = c.toLower :: lowerAscii text := rfl

@[simp] theorem lowerAscii_lowerAscii (text : Text) :
    text.lowerAscii.lowerAscii = text.lowerAscii := by
  simp [lowerAscii]

@[simp] theorem utf8Length_lowerAscii (text : Text) :
    text.lowerAscii.utf8Length = text.utf8Length := by
  induction text with
  | nil => rfl
  | cons c text ih => rw [lowerAscii_cons, utf8Length_cons, utf8Length_cons, utf8Size_toLower, ih]

theorem takeWhile_lowerAscii {p : Char → Bool} (blind : ∀ c, p c.toLower = p c) (text : Text) :
    text.lowerAscii.takeWhile p = lowerAscii (text.takeWhile p) := by
  have same : p ∘ Char.toLower = p := funext blind
  rw [lowerAscii, List.takeWhile_map, same, lowerAscii]

theorem dropWhile_lowerAscii {p : Char → Bool} (blind : ∀ c, p c.toLower = p c) (text : Text) :
    text.lowerAscii.dropWhile p = lowerAscii (text.dropWhile p) := by
  have same : p ∘ Char.toLower = p := funext blind
  rw [lowerAscii, List.dropWhile_map, same, lowerAscii]

end Text

@[simp] theorem Condition.ofToken_lowerAscii (token : Text) :
    ofToken token.lowerAscii = ofToken token := by
  rw [ofToken, Text.lowerAscii_lowerAscii, ofToken]

def Opening.lowered (opening : Opening) : Opening :=
  ⟨opening.token.lowerAscii, opening.agentPattern.map Text.lowerAscii⟩

namespace Marker

/-! The readers of the parts of a marker -/

theorem afterWord?_lowerAscii (word text : Text) :
    afterWord? word text.lowerAscii = (afterWord? word text).map Text.lowerAscii := by
  induction word generalizing text with
  | nil => rfl
  | cons w word ih =>
      cases text with
      | nil => rfl
      | cons c text =>
          rw [Text.lowerAscii_cons, afterWord?, afterWord?, Char.toLower_toLower_eq_toLower, ih]
          split <;> rfl

theorem afterBrace?_lowerAscii (text : Text) :
    afterBrace? text.lowerAscii = (afterBrace? text).map Text.lowerAscii := by
  rw [afterBrace?, afterBrace?, Text.dropWhile_lowerAscii isBlank_toLower]
  cases text.dropWhile isBlank with
  | nil => rfl
  | cons c rest =>
      by_cases brace : c = '}'
      · subst brace
        rfl
      · have brace' := toLower_ne_of_ne (by decide) brace
        simp [brace, brace']

def loweredBoth (found : Text × Text) : Text × Text :=
  (found.1.lowerAscii, found.2.lowerAscii)

theorem attributeValue?_quoted_lowerAscii (quoted : Text) :
    attributeValue? ('=' :: '"' :: quoted.lowerAscii) =
      (attributeValue? ('=' :: '"' :: quoted)).map loweredBoth := by
  rw [attributeValue?, attributeValue?, Text.takeWhile_lowerAscii toLower_bne_quote,
    Text.dropWhile_lowerAscii toLower_bne_quote]
  cases quoted.takeWhile (· != '"') with
  | nil => rfl
  | cons first value =>
      cases quoted.dropWhile (· != '"') with
      | nil => rfl
      | cons last rest =>
          by_cases ends : last = '"'
          · subst ends
            rfl
          · have ends' := toLower_ne_of_ne (by decide) ends
            simp [ends, ends']

theorem attributeValue?_lowerAscii (text : Text) :
    attributeValue? text.lowerAscii = (attributeValue? text).map loweredBoth := by
  match text with
  | [] => rfl
  | [c] => simp [attributeValue?]
  | c :: q :: quoted =>
      by_cases equals : c = '='
      · by_cases quote : q = '"'
        · subst equals quote
          exact attributeValue?_quoted_lowerAscii quoted
        · have quote' := toLower_ne_of_ne (by decide) quote
          simp [attributeValue?, quote, quote']
      · have equals' := toLower_ne_of_ne (by decide) equals
        simp [attributeValue?, equals, equals']

theorem attribute?_lowerAscii (text : Text) :
    attribute? text.lowerAscii = (attribute? text).map loweredBoth := by
  rw [attribute?, attribute?, afterWord?_lowerAscii]
  cases afterWord? attributeName text with
  | none => rfl
  | some rest => exact attributeValue?_lowerAscii rest

theorem beforeAttributeName?_lowerAscii (run : Text) :
    beforeAttributeName? run.lowerAscii = (beforeAttributeName? run).map Text.lowerAscii := by
  have backwards : run.lowerAscii.reverse = Text.lowerAscii run.reverse := List.map_reverse.symm
  rw [beforeAttributeName?, beforeAttributeName?, backwards]
  rcases run.reverse with _ | ⟨a, _ | ⟨u, _ | ⟨c, token⟩⟩⟩
  · rfl
  · rfl
  · rfl
  · simp only [Text.lowerAscii_cons, Char.toLower_toLower_eq_toLower]
    split
    · simp [Text.lowerAscii]
    · rfl

def loweredOpening (found : Opening × Text) : Opening × Text :=
  (found.1.lowered, found.2.lowerAscii)

theorem attributed?_lowerAscii (run afterRun : Text) :
    attributed? run.lowerAscii afterRun.lowerAscii =
      (attributed? run afterRun).map loweredOpening := by
  rw [attributed?, attributed?, Text.dropWhile_lowerAscii isBlank_toLower, attribute?_lowerAscii,
    attributeValue?_lowerAscii, beforeAttributeName?_lowerAscii, afterBrace?_lowerAscii]
  cases attribute? (afterRun.dropWhile isBlank) with
  | some found =>
      simp only [Option.map_some, loweredBoth, afterBrace?_lowerAscii, Option.map_map]
      rfl
  | none =>
      cases attributeValue? afterRun with
      | some found =>
          cases beforeAttributeName? run with
          | none => rfl
          | some token =>
              simp only [Option.map_some, loweredBoth, afterBrace?_lowerAscii]
              cases afterBrace? found.2 <;> rfl
      | none =>
          simp only [Option.map_none, Option.map_map]
          rfl

theorem opening?_lowerAscii (text : Text) :
    opening? text.lowerAscii = (opening? text).map loweredOpening := by
  rw [opening?, opening?, afterWord?_lowerAscii]
  cases afterWord? openingPrefix text with
  | none => rfl
  | some spaced =>
      have spacedAlike : spaced.lowerAscii.head?.map isBlank = spaced.head?.map isBlank := by
        cases spaced <;> simp [isBlank_toLower]
      simp only [Option.map_some, Option.bind_eq_bind, Option.bind_some, spacedAlike,
        Text.dropWhile_lowerAscii isBlank_toLower,
        Text.takeWhile_lowerAscii isAsciiAlphanumeric_toLower,
        Text.dropWhile_lowerAscii isAsciiAlphanumeric_toLower, attributed?_lowerAscii]
      cases (spaced.head?.map isBlank).getD false with
      | false => rfl
      | true =>
          cases (spaced.dropWhile isBlank).takeWhile isAsciiAlphanumeric <;> rfl

theorem afterClosing?_lowerAscii (text : Text) :
    afterClosing? text.lowerAscii = (afterClosing? text).map Text.lowerAscii := by
  cases text with
  | nil => rfl
  | cons c inner =>
      by_cases brace : c = '{'
      · subst brace
        have lowered : Text.lowerAscii ('{' :: inner) = '{' :: Text.lowerAscii inner := rfl
        rw [lowered, afterClosing?, afterClosing?, Text.dropWhile_lowerAscii isBlank_toLower,
          afterWord?_lowerAscii]
        cases afterWord? keyword (inner.dropWhile isBlank) with
        | none => rfl
        | some rest => exact afterBrace?_lowerAscii rest
      · have brace' := toLower_ne_of_ne (by decide) brace
        simp [afterClosing?, brace, brace']

theorem untilClosing?_lowerAscii (text : Text) :
    untilClosing? text.lowerAscii = (untilClosing? text).map loweredBoth := by
  induction text with
  | nil => rfl
  | cons c rest ih =>
      have closes := afterClosing?_lowerAscii (c :: rest)
      rw [Text.lowerAscii_cons] at closes ⊢
      rw [untilClosing?, untilClosing?, closes, ih]
      cases afterClosing? (c :: rest) with
      | some after => rfl
      | none => cases untilClosing? rest <;> rfl

theorem mayContain_lowerAscii (text : Text) : mayContain text.lowerAscii = mayContain text := by
  rw [Bool.eq_iff_iff, mayContain_iff_lowerAscii, mayContain_iff_lowerAscii,
    Text.lowerAscii_lowerAscii]

end Marker

def Block.lowered (block : Block) : Block :=
  ⟨block.condition, block.agentPattern.map Text.lowerAscii, block.body.lowerAscii⟩

def Piece.lowered : Piece → Piece
  | .plain c => .plain c.toLower
  | .block source content => .block source.lowerAscii content.lowered

def PlacedBlock.lowered (block : PlacedBlock) : PlacedBlock :=
  { block.toBlock.lowered with start := block.start, stop := block.stop }

/-- The blocks are in the same place and say the same, up to the case of ASCII letters in what is
kept as written. -/
structure PlacedBlock.SameUpToCase (block block' : PlacedBlock) : Prop where
  start : block.start = block'.start
  stop : block.stop = block'.stop
  condition : block.condition = block'.condition
  agentPattern :
    block.agentPattern.map Text.lowerAscii = block'.agentPattern.map Text.lowerAscii
  body : block.body.SameUpToCase block'.body

theorem PlacedBlock.lowered_eq_iff {block block' : PlacedBlock} :
    block.lowered = block'.lowered ↔ block.SameUpToCase block' := by
  constructor
  · intro same
    simp only [PlacedBlock.lowered, Block.lowered, PlacedBlock.mk.injEq, Block.mk.injEq] at same
    exact ⟨same.2.1, same.2.2, same.1.1, same.1.2.1, same.1.2.2⟩
  · rintro ⟨start, stop, condition, agentPattern, body⟩
    rw [Text.SameUpToCase] at body
    simp only [PlacedBlock.lowered, Block.lowered, start, stop, condition, agentPattern, body]

namespace Document

theorem block?_lowerAscii (text : Text) :
    block? text.lowerAscii =
      (block? text).map (fun found => (found.1.lowered, found.2.lowerAscii)) := by
  rw [block?, block?, Marker.opening?_lowerAscii]
  cases Marker.opening? text with
  | none => rfl
  | some opened =>
      simp only [Option.map_some, Option.bind_eq_bind, Option.bind_some, Marker.loweredOpening,
        Marker.untilClosing?_lowerAscii]
      cases Marker.untilClosing? opened.2 with
      | none => rfl
      | some closed => simp [Marker.loweredBoth, Block.lowered, Opening.lowered]

/-- What begins a block does so in lower case, and nothing else does. -/
theorem startsBlock_lowerAscii {text : Text} : StartsBlock text.lowerAscii ↔ StartsBlock text := by
  rw [← not_iff_not, ← block?_eq_none_iff, ← block?_eq_none_iff, block?_lowerAscii,
    Option.map_eq_none_iff]

theorem blockForm_lowerAscii {block : Block} {source : Text} (form : BlockForm block source) :
    BlockForm block.lowered source.lowerAscii := by
  have found : block? source = some (block, []) :=
    block?_eq_some_iff.mpr ⟨source, form, (List.append_nil source).symm⟩
  have lowered := block?_lowerAscii source
  rw [found] at lowered
  obtain ⟨source', form', same⟩ := block?_eq_some_iff.mp lowered
  rwa [same, Text.lowerAscii_nil, List.append_nil]

theorem pieces_lowerAscii (text : Text) :
    pieces text.lowerAscii = (pieces text).map Piece.lowered := by
  induction text using pieces_induction with
  | empty => rw [Text.lowerAscii_nil, pieces_nil, List.map_nil]
  | plain c rest never ih =>
      have never' : ¬ StartsBlock (Text.lowerAscii (c :: rest)) :=
        mt startsBlock_lowerAscii.mp never
      rw [Text.lowerAscii_cons] at never' ⊢
      rw [pieces_plain never', pieces_plain never, ih]
      rfl
  | block content source rest form ih =>
      have whole : Text.lowerAscii (source ++ rest) = source.lowerAscii ++ rest.lowerAscii :=
        List.map_append
      rw [whole, pieces_block (blockForm_lowerAscii form), pieces_block form, ih]
      rfl

theorem place_lowered (offset : Nat) (parts : List Piece) :
    place offset (parts.map Piece.lowered) = (place offset parts).map PlacedBlock.lowered := by
  induction parts generalizing offset with
  | nil => rfl
  | cons part parts ih =>
      cases part with
      | plain c =>
          rw [List.map_cons, Piece.lowered, place, place, utf8Size_toLower, ih]
      | block source content =>
          rw [List.map_cons, Piece.lowered, place, place, Text.utf8Length_lowerAscii, ih]
          rfl

theorem blocks_lowerAscii (text : Text) :
    blocks text.lowerAscii = (blocks text).map PlacedBlock.lowered := by
  rw [blocks_eq_scan, blocks_eq_scan, scan, scan, pieces_lowerAscii, place_lowered]

theorem blocks_eq_nil_of_s_notMem {text : Text} (small : 's' ∉ text) (capital : 'S' ∉ text) :
    blocks text = [] := by
  rw [blocks, if_neg]
  intro present
  rw [Marker.mayContain_iff_lowerAscii] at present
  have letter : 's' ∈ Marker.openingPrefix := by decide
  obtain ⟨c, member, lowered⟩ := List.mem_map.mp (present.mem letter)
  rcases eq_s_or_S_of_toLower_eq lowered with rfl | rfl
  · exact small member
  · exact capital member

/-- Texts that agree up to the case of ASCII letters are alike to the quick test and have alike
blocks, in the same places; a text in lower case has the blocks of the text as written, in lower
case. No other characters are taken for one another: where the last letter of the keyword is
nowhere in the text, whatever stands for it, there is no block. -/
theorem blocks_case_blind (text text' : Text) (same : text.SameUpToCase text') :
    Marker.mayContain text = Marker.mayContain text' ∧
      List.Forall₂ PlacedBlock.SameUpToCase (blocks text) (blocks text') ∧
      blocks text.lowerAscii = (blocks text).map PlacedBlock.lowered ∧
      ∀ other : Text, 's' ∉ other → 'S' ∉ other → blocks other = [] := by
  rw [Text.SameUpToCase] at same
  refine ⟨?_, ?_, blocks_lowerAscii text, fun other => blocks_eq_nil_of_s_notMem⟩
  · rw [← Marker.mayContain_lowerAscii text, same, Marker.mayContain_lowerAscii]
  · have lowered : (blocks text).map PlacedBlock.lowered =
        (blocks text').map PlacedBlock.lowered := by
      rw [← blocks_lowerAscii, same, blocks_lowerAscii]
    rw [← List.forall₂_eq_eq_eq, List.forall₂_map_left_iff, List.forall₂_map_right_iff] at lowered
    exact lowered.imp fun _ _ => PlacedBlock.lowered_eq_iff.mp

/-- Capitals in the keywords, the condition, the attribute, its pattern and the body, and a letter in
the body that folds to an ASCII letter but is none. -/
theorem blocks_case_blind_in_every_part :
    let text : Text := "\u00c4\x7bfws web ua=\"Edge|k\"\x7dA\u212a\x7bfws\x7d".toList
    let text' : Text := "\u00c4\x7bFwS WEB Ua=\"edge|K\"\x7da\u212a\x7bFWS\x7d".toList
    text.SameUpToCase text' ∧
      Marker.mayContain text = Marker.mayContain text' ∧
      List.Forall₂ PlacedBlock.SameUpToCase (blocks text) (blocks text') ∧
      blocks text.lowerAscii = (blocks text).map PlacedBlock.lowered ∧
      ∀ other : Text, 's' ∉ other → 'S' ∉ other → blocks other = [] := by
  intro text text'
  have same : text.SameUpToCase text' := by decide
  exact ⟨same, blocks_case_blind text text' same⟩

end Document

end ConditionalText
