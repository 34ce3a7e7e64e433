import ConditionalText.Marker.Opening
import ConditionalText.Proofs.AsciiRuns

/-!
The grammar of markers, apart from any reader: which texts are opening markers and what they say,
and which texts are closing markers. The readers find exactly the texts of the grammar, so nothing
behind a marker has a say in whether and where it ends.
-/

namespace ConditionalText.Marker

/-- The ways to write an attribute together with the blanks before it. That there is no attribute
is written as nothing. -/
inductive AttributeForm : Option Text → Text → Prop where
  | absent : AttributeForm none []
  | present {blanks name value : Text} (blank : ∀ c ∈ blanks, isBlank c = true)
      (named : name.lowerAscii = attributeName) (filled : value ≠ []) (unquoted : '"' ∉ value) :
      AttributeForm (some value) (blanks ++ (name ++ ('=' :: '"' :: (value ++ ['"']))))

inductive OpeningForm : Opening → Text → Prop where
  | marker {word blanks token attributeText trailing : Text} {agentPattern : Option Text}
      (keyworded : word.lowerAscii = keyword)
      (spaced : blanks ≠ []) (blank : ∀ c ∈ blanks, isBlank c = true)
      (named : token ≠ []) (alphanumeric : ∀ c ∈ token, isAsciiAlphanumeric c = true)
      (attributed : AttributeForm agentPattern attributeText)
      (ended : ∀ c ∈ trailing, isBlank c = true) :
      OpeningForm ⟨token, agentPattern⟩
        ('{' :: (word ++ (blanks ++ (token ++ (attributeText ++ (trailing ++ ['}']))))))

inductive ClosingForm : Text → Prop where
  | marker {leading word trailing : Text} (started : ∀ c ∈ leading, isBlank c = true)
      (keyworded : word.lowerAscii = keyword) (ended : ∀ c ∈ trailing, isBlank c = true) :
      ClosingForm ('{' :: (leading ++ (word ++ (trailing ++ ['}']))))

/-- A closing marker stands somewhere in the text. -/
def HoldsClosing (text : Text) : Prop :=
  ∃ before closing after, ClosingForm closing ∧ text = before ++ (closing ++ after)

/-! Words and braces -/

theorem keyword_eq : keyword = ['f', 'w', 's'] := rfl

theorem attributeName_eq : attributeName = ['u', 'a'] := rfl

theorem alphanumeric_of_keyword {word : Text} (keyworded : word.lowerAscii = keyword) :
    ∀ c ∈ word, isAsciiAlphanumeric c = true :=
  Text.alphanumeric_of_lowerAscii keyworded (by simp [keyword_eq, isAsciiAlphanumeric])

theorem alphanumeric_of_attributeName {name : Text} (named : name.lowerAscii = attributeName) :
    ∀ c ∈ name, isAsciiAlphanumeric c = true :=
  Text.alphanumeric_of_lowerAscii named (by simp [attributeName_eq, isAsciiAlphanumeric])

theorem lowerAscii_eq_attributeName_iff {name : Text} :
    name.lowerAscii = attributeName ↔
      ∃ u a : Char, u.toLower = 'u' ∧ a.toLower = 'a' ∧ name = [u, a] := by
  rw [attributeName_eq, Text.lowerAscii]
  constructor
  · intro same
    rcases List.map_eq_cons_iff.mp same with ⟨u, others, rfl, folded, rest⟩
    rcases List.map_eq_cons_iff.mp rest with ⟨a, nothing, rfl, folded', empty⟩
    cases List.map_eq_nil_iff.mp empty
    exact ⟨u, a, folded, folded', rfl⟩
  · rintro ⟨u, a, folded, folded', rfl⟩
    simp [folded, folded']

theorem afterWord?_eq_some_iff {word text rest : Text} :
    afterWord? word text = some rest ↔
      ∃ written : Text, written.lowerAscii = word ∧ text = written ++ rest := by
  induction word generalizing text with
  | nil =>
      constructor
      · intro found
        cases found
        exact ⟨[], rfl, rfl⟩
      · rintro ⟨written, same, rfl⟩
        have empty : written = [] := List.map_eq_nil_iff.mp same
        simp [afterWord?, empty]
  | cons w word ih =>
      cases text with
      | nil =>
          simp only [afterWord?, reduceCtorEq, false_iff]
          rintro ⟨written, same, split⟩
          have empty : written = [] := (List.append_eq_nil_iff.mp split.symm).1
          subst written
          cases same
      | cons c text =>
          constructor
          · intro found
            simp only [afterWord?] at found
            split at found
            · rename_i folded
              rcases ih.mp found with ⟨written, same, rfl⟩
              exact ⟨c :: written, congrArg₂ List.cons folded same, rfl⟩
            · cases found
          · rintro ⟨written, same, split⟩
            cases written with
            | nil => cases same
            | cons head written =>
                simp only [List.cons_append, List.cons.injEq] at split
                rcases split with ⟨rfl, rfl⟩
                have folded := List.cons.inj same
                simp only [afterWord?, if_pos folded.1]
                exact ih.mpr ⟨written, folded.2, rfl⟩

theorem afterWord?_openingPrefix_iff {text rest : Text} :
    afterWord? openingPrefix text = some rest ↔
      ∃ word : Text, word.lowerAscii = keyword ∧ text = '{' :: (word ++ rest) := by
  rw [afterWord?_eq_some_iff]
  constructor
  · rintro ⟨written, same, rfl⟩
    cases written with
    | nil => cases same
    | cons c word =>
        have folded := List.cons.inj same
        have brace : c = '{' := (toLower_eq_iff_of_not_alphanumeric (by decide)).mp folded.1
        subst brace
        exact ⟨word, folded.2, rfl⟩
  · rintro ⟨word, keyworded, rfl⟩
    exact ⟨'{' :: word, congrArg₂ List.cons (by decide) keyworded, rfl⟩

theorem mayContain_cons_iff {c : Char} {text : Text} :
    mayContain (c :: text) = true ↔
      (∃ word rest : Text, word.lowerAscii = keyword ∧ c :: text = '{' :: (word ++ rest)) ∨
        mayContain text = true := by
  rw [mayContain, Bool.or_eq_true, Option.isSome_iff_exists]
  simp only [afterWord?_openingPrefix_iff]
  rw [exists_comm]

theorem mayContain_append (before : Text) {word : Text} (folded : word.lowerAscii = keyword)
    (after : Text) : mayContain (before ++ '{' :: (word ++ after)) = true := by
  induction before with
  | nil => exact mayContain_cons_iff.mpr (Or.inl ⟨word, after, folded, rfl⟩)
  | cons c before ih => exact mayContain_cons_iff.mpr (Or.inr ih)

theorem afterBrace?_eq_some_iff {text rest : Text} :
    afterBrace? text = some rest ↔
      ∃ trailing : Text, (∀ c ∈ trailing, isBlank c = true) ∧
        text = trailing ++ '}' :: rest := by
  constructor
  · intro found
    unfold afterBrace? at found
    split at found
    · rename_i after same
      cases found
      refine ⟨text.takeWhile isBlank, Text.all_takeWhile isBlank text, ?_⟩
      rw [← same, List.takeWhile_append_dropWhile]
    · cases found
  · rintro ⟨trailing, blank, rfl⟩
    have stops : Text.StopsBefore isBlank ('}' :: rest) := by
      rw [Text.stopsBefore_cons]
      decide
    simp only [afterBrace?, Text.dropWhile_run blank stops]

theorem attributeValue?_eq_some_iff {text value rest : Text} :
    attributeValue? text = some (value, rest) ↔
      value ≠ [] ∧ '"' ∉ value ∧ text = '=' :: '"' :: (value ++ '"' :: rest) := by
  constructor
  · intro found
    unfold attributeValue? at found
    split at found
    · rename_i quoted
      split at found
      · rename_i c value' rest' taken dropped
        cases found
        have whole := List.takeWhile_append_dropWhile (p := (· != '"')) (l := quoted)
        rw [taken, dropped] at whole
        refine ⟨by simp, ?_, by rw [← whole]⟩
        intro member
        rw [← taken] at member
        simpa using List.mem_takeWhile_imp member
      · cases found
    · cases found
  · rintro ⟨filled, unquoted, rfl⟩
    have inside : ∀ c ∈ value, (c != '"') = true := by
      intro c member
      rw [bne_iff_ne]
      rintro rfl
      exact unquoted member
    have stops : Text.StopsBefore (· != '"') ('"' :: rest) := by simp
    cases value with
    | nil => contradiction
    | cons c value =>
        simp only [attributeValue?, Text.takeWhile_run inside stops,
          Text.dropWhile_run inside stops]

theorem attribute?_eq_some_iff {text value rest : Text} :
    attribute? text = some (value, rest) ↔
      ∃ name : Text, name.lowerAscii = attributeName ∧ value ≠ [] ∧ '"' ∉ value ∧
        text = name ++ '=' :: '"' :: (value ++ '"' :: rest) := by
  simp only [attribute?, Option.bind_eq_some_iff, afterWord?_eq_some_iff,
    attributeValue?_eq_some_iff]
  constructor
  · rintro ⟨middle, ⟨name, named, rfl⟩, filled, unquoted, rfl⟩
    exact ⟨name, named, filled, unquoted, rfl⟩
  · rintro ⟨name, named, filled, unquoted, rfl⟩
    exact ⟨_, ⟨name, named, rfl⟩, filled, unquoted, rfl⟩

theorem beforeAttributeName?_eq_some_iff {run token : Text} :
    beforeAttributeName? run = some token ↔
      token ≠ [] ∧ ∃ name : Text, name.lowerAscii = attributeName ∧ run = token ++ name := by
  constructor
  · intro found
    unfold beforeAttributeName? at found
    split at found
    · rename_i a u c front reversed
      split at found
      · rename_i folded
        cases found
        refine ⟨by simp, [u, a], ?_, ?_⟩
        · exact lowerAscii_eq_attributeName_iff.mpr ⟨u, a, folded.2, folded.1, rfl⟩
        · rw [← List.reverse_reverse run, reversed]
          simp
      · cases found
    · cases found
  · rintro ⟨nonempty, name, named, rfl⟩
    rcases lowerAscii_eq_attributeName_iff.mp named with ⟨u, a, folded, folded', rfl⟩
    cases reversed : token.reverse with
    | nil => exact absurd (List.reverse_eq_nil_iff.mp reversed) nonempty
    | cons c front =>
        have whole : token = (c :: front).reverse := by
          rw [← reversed, List.reverse_reverse]
        simp [beforeAttributeName?, folded, folded', whole]

/-! Opening markers -/

theorem stopsBefore_ending {trailing rest : Text} (blank : ∀ c ∈ trailing, isBlank c = true) :
    Text.StopsBefore isAsciiAlphanumeric (trailing ++ '}' :: rest) := by
  cases trailing with
  | nil =>
      rw [List.nil_append, Text.stopsBefore_cons]
      decide
  | cons c trailing =>
      have first := not_alphanumeric_of_isBlank (blank c (by simp))
      simpa using first

theorem attributed?_absent {run trailing rest : Text}
    (blank : ∀ c ∈ trailing, isBlank c = true) :
    attributed? run (trailing ++ '}' :: rest) = some (⟨run, none⟩, rest) := by
  have stops : Text.StopsBefore isBlank ('}' :: rest) := by
    rw [Text.stopsBefore_cons]
    decide
  have unnamed : attribute? ('}' :: rest) = none := by
    simp [attribute?, attributeName_eq, afterWord?]
  have unvalued : attributeValue? (trailing ++ '}' :: rest) = none := by
    cases found : attributeValue? (trailing ++ '}' :: rest) with
    | none => rfl
    | some pair =>
        rcases attributeValue?_eq_some_iff.mp found with ⟨_, _, same⟩
        cases trailing with
        | nil => simp at same
        | cons c trailing =>
            have first := blank c (by simp)
            simp only [List.cons_append, List.cons.injEq] at same
            rw [same.1] at first
            exact absurd first (by decide)
  simp only [attributed?, Text.dropWhile_run blank stops, unnamed, unvalued,
    afterBrace?_eq_some_iff.mpr ⟨trailing, blank, rfl⟩, Option.map_some]

theorem attributed?_apart {run blanks name value trailing rest : Text}
    (blank : ∀ c ∈ blanks, isBlank c = true) (named : name.lowerAscii = attributeName)
    (filled : value ≠ []) (unquoted : '"' ∉ value) (ended : ∀ c ∈ trailing, isBlank c = true) :
    attributed? run
        (blanks ++ (name ++ '=' :: '"' :: (value ++ '"' :: (trailing ++ '}' :: rest)))) =
      some (⟨run, some value⟩, rest) := by
  have stops : Text.StopsBefore isBlank
      (name ++ '=' :: '"' :: (value ++ '"' :: (trailing ++ '}' :: rest))) := by
    rcases lowerAscii_eq_attributeName_iff.mp named with ⟨u, a, _, _, rfl⟩
    have letter := alphanumeric_of_attributeName named u (by simp)
    simpa using not_isBlank_of_alphanumeric letter
  have valued := attribute?_eq_some_iff.mpr
    ⟨name, named, filled, unquoted, (rfl : _ = name ++ '=' :: '"' ::
      (value ++ '"' :: (trailing ++ '}' :: rest)))⟩
  simp only [attributed?, Text.dropWhile_run blank stops, valued,
    afterBrace?_eq_some_iff.mpr ⟨trailing, ended, rfl⟩, Option.map_some]

theorem attributed?_value (run : Text) {value trailing rest : Text} (filled : value ≠ [])
    (unquoted : '"' ∉ value) (ended : ∀ c ∈ trailing, isBlank c = true) :
    attributed? run ('=' :: '"' :: (value ++ '"' :: (trailing ++ '}' :: rest))) =
      (beforeAttributeName? run).map (fun token => (⟨token, some value⟩, rest)) := by
  have unnamed : attribute? (('=' :: '"' :: (value ++ '"' :: (trailing ++ '}' :: rest))).dropWhile
      isBlank) = none := by
    simp [attribute?, attributeName_eq, afterWord?, isBlank]
  have valued := attributeValue?_eq_some_iff.mpr
    ⟨filled, unquoted, (rfl : _ = '=' :: '"' :: (value ++ '"' :: (trailing ++ '}' :: rest)))⟩
  have braced := afterBrace?_eq_some_iff.mpr ⟨trailing, ended, (rfl : _ = trailing ++ '}' :: rest)⟩
  simp only [attributed?, unnamed, valued, braced, Option.bind_eq_bind, Option.bind_some,
    Option.pure_def]
  cases beforeAttributeName? run <;> rfl

theorem attributed?_touching {token name value trailing rest : Text} (nonempty : token ≠ [])
    (named : name.lowerAscii = attributeName) (filled : value ≠ []) (unquoted : '"' ∉ value)
    (ended : ∀ c ∈ trailing, isBlank c = true) :
    attributed? (token ++ name)
        ('=' :: '"' :: (value ++ '"' :: (trailing ++ '}' :: rest))) =
      some (⟨token, some value⟩, rest) := by
  have shorter := beforeAttributeName?_eq_some_iff.mpr ⟨nonempty, name, named, rfl⟩
  rw [attributed?_value _ filled unquoted ended, shorter, Option.map_some]

theorem form_of_attributed? {run afterRun rest : Text} {opening : Opening} (nonempty : run ≠ [])
    (found : attributed? run afterRun = some (opening, rest)) :
    opening.token ≠ [] ∧ (∀ c ∈ opening.token, c ∈ run) ∧
      ∃ attributeText trailing : Text, AttributeForm opening.agentPattern attributeText ∧
        (∀ c ∈ trailing, isBlank c = true) ∧
        run ++ afterRun = opening.token ++ (attributeText ++ (trailing ++ '}' :: rest)) := by
  unfold attributed? at found
  split at found
  · rename_i value afterValue attributed
    rcases Option.map_eq_some_iff.mp found with ⟨after, braced, same⟩
    cases same
    rcases attribute?_eq_some_iff.mp attributed with ⟨name, named, filled, unquoted, behind⟩
    rcases afterBrace?_eq_some_iff.mp braced with ⟨trailing, ended, rfl⟩
    have whole := List.takeWhile_append_dropWhile (p := isBlank) (l := afterRun)
    rw [behind] at whole
    refine ⟨nonempty, fun c member => member, _, trailing,
      .present (Text.all_takeWhile isBlank afterRun) named filled unquoted, ended, ?_⟩
    conv_lhs => rw [← whole]
    simp
  · split at found
    · rename_i value afterValue valued
      simp only [Option.bind_eq_bind, Option.bind_eq_some_iff, Option.pure_def,
        Option.some.injEq, Prod.mk.injEq] at found
      rcases found with ⟨token, shorter, after, braced, rfl, rfl⟩
      rcases beforeAttributeName?_eq_some_iff.mp shorter with ⟨tokenNonempty, name, named, rfl⟩
      rcases attributeValue?_eq_some_iff.mp valued with ⟨filled, unquoted, rfl⟩
      rcases afterBrace?_eq_some_iff.mp braced with ⟨trailing, ended, rfl⟩
      have noBlanks : ∀ c ∈ ([] : Text), isBlank c = true := by simp
      refine ⟨tokenNonempty, fun c member => List.mem_append_left _ member, _, trailing,
        .present noBlanks named filled unquoted, ended, ?_⟩
      simp
    · rcases Option.map_eq_some_iff.mp found with ⟨after, braced, same⟩
      cases same
      rcases afterBrace?_eq_some_iff.mp braced with ⟨trailing, ended, rfl⟩
      exact ⟨nonempty, fun c member => member, [], trailing, .absent, ended, rfl⟩

/-- The longest run of letters and digits is the token, or the token with the name of an attribute
that touches it; what stands behind the run tells which. -/
theorem attributed?_of_form {run afterRun attributeText trailing rest : Text} {opening : Opening}
    (alphanumeric : ∀ c ∈ run, isAsciiAlphanumeric c = true)
    (stops : Text.StopsBefore isAsciiAlphanumeric afterRun)
    (tokenNonempty : opening.token ≠ [])
    (tokenAlphanumeric : ∀ c ∈ opening.token, isAsciiAlphanumeric c = true)
    (form : AttributeForm opening.agentPattern attributeText)
    (ended : ∀ c ∈ trailing, isBlank c = true)
    (same : run ++ afterRun = opening.token ++ (attributeText ++ (trailing ++ '}' :: rest))) :
    attributed? run afterRun = some (opening, rest) := by
  rcases opening with ⟨token, agentPattern⟩
  cases form with
  | absent =>
      obtain ⟨rfl, rfl⟩ := Text.run_unique alphanumeric stops tokenAlphanumeric
        (stopsBefore_ending ended) same
      exact attributed?_absent ended
  | @present blanks name value blank named filled unquoted =>
      cases blanks with
      | nil =>
          have longest : run ++ afterRun = (token ++ name) ++
              ('=' :: '"' :: (value ++ '"' :: (trailing ++ '}' :: rest))) := by
            rw [same]
            simp
          have letters : ∀ c ∈ token ++ name, isAsciiAlphanumeric c = true := by
            intro c member
            rcases List.mem_append.mp member with inToken | inName
            · exact tokenAlphanumeric c inToken
            · exact alphanumeric_of_attributeName named c inName
          obtain ⟨rfl, rfl⟩ := Text.run_unique alphanumeric stops letters
            (by rw [Text.stopsBefore_cons]; decide) longest
          exact attributed?_touching tokenNonempty named filled unquoted ended
      | cons c blanks =>
          have longest : run ++ afterRun = token ++ ((c :: blanks) ++ (name ++ '=' :: '"' ::
              (value ++ '"' :: (trailing ++ '}' :: rest)))) := by
            rw [same]
            simp
          have stopped := not_alphanumeric_of_isBlank (blank c (by simp))
          obtain ⟨rfl, rfl⟩ := Text.run_unique alphanumeric stops tokenAlphanumeric
            (by rw [List.cons_append, Text.stopsBefore_cons]; exact stopped) longest
          exact attributed?_apart blank named filled unquoted ended

theorem opening?_eq_some_iff_attributed {text : Text} {found : Opening × Text} :
    opening? text = some found ↔
      ∃ spaced, afterWord? openingPrefix text = some spaced ∧
        (spaced.head?.map isBlank).getD false = true ∧
        (spaced.dropWhile isBlank).takeWhile isAsciiAlphanumeric ≠ [] ∧
        attributed? ((spaced.dropWhile isBlank).takeWhile isAsciiAlphanumeric)
          ((spaced.dropWhile isBlank).dropWhile isAsciiAlphanumeric) = some found := by
  simp only [opening?, Option.bind_eq_bind, Option.bind_eq_some_iff]
  simp [guard, failure]

/-- Behind the keyword and some blanks, what follows the longest run of letters and digits tells
what the marker says. -/
theorem opening?_run {word blanks run afterRun : Text} (keyworded : word.lowerAscii = keyword)
    (spaced : blanks ≠ []) (blank : ∀ c ∈ blanks, isBlank c = true) (named : run ≠ [])
    (alphanumeric : ∀ c ∈ run, isAsciiAlphanumeric c = true)
    (stops : Text.StopsBefore isAsciiAlphanumeric afterRun) :
    opening? ('{' :: (word ++ (blanks ++ (run ++ afterRun)))) = attributed? run afterRun := by
  have runStops : Text.StopsBefore isBlank (run ++ afterRun) := by
    obtain ⟨c, run, rfl⟩ := List.exists_cons_of_ne_nil named
    exact Text.stopsBefore_cons.mpr (not_isBlank_of_alphanumeric (alphanumeric c (by simp)))
  have starts : ((blanks ++ (run ++ afterRun)).head?.map isBlank).getD false = true := by
    obtain ⟨c, blanks, rfl⟩ := List.exists_cons_of_ne_nil spaced
    simpa using blank c (by simp)
  have filled : run.isEmpty = false := by simpa using named
  have prefixed := afterWord?_openingPrefix_iff.mpr
    ⟨word, keyworded, (rfl : _ = '{' :: (word ++ (blanks ++ (run ++ afterRun))))⟩
  simp only [opening?, prefixed, Option.bind_eq_bind, Option.bind_some, starts,
    Text.dropWhile_run blank runStops, Text.takeWhile_run alphanumeric stops,
    Text.dropWhile_run alphanumeric stops, filled]
  rfl

/-- The reader of opening markers finds exactly what the grammar calls one. -/
theorem opening?_eq_some_iff {text rest : Text} {opening : Opening} :
    opening? text = some (opening, rest) ↔
      ∃ opened : Text, OpeningForm opening opened ∧ text = opened ++ rest := by
  constructor
  · intro read
    obtain ⟨spaced, keyworded, starts, nonempty, found⟩ :=
      opening?_eq_some_iff_attributed.mp read
    rcases afterWord?_openingPrefix_iff.mp keyworded with ⟨word, folded, rfl⟩
    obtain ⟨tokenNonempty, within, attributeText, trailing, form, ended, same⟩ :=
      form_of_attributed? nonempty found
    have blanksNonempty : spaced.takeWhile isBlank ≠ [] := by
      cases spaced with
      | nil => simp at starts
      | cons c spaced =>
          have blank : isBlank c = true := by simpa using starts
          simp [blank]
    refine ⟨_, .marker folded blanksNonempty (Text.all_takeWhile isBlank spaced) tokenNonempty
      (fun c member => Text.all_takeWhile _ _ c (within c member)) form ended, ?_⟩
    rw [List.takeWhile_append_dropWhile] at same
    conv_lhs => rw [← List.takeWhile_append_dropWhile (p := isBlank) (l := spaced), same]
    simp
  · rintro ⟨opened, form, rfl⟩
    cases form with
    | @marker word blanks token attributeText trailing agentPattern folded blanksNonempty blank
        tokenNonempty alphanumeric attributed ended =>
        have meant : attributed?
            ((token ++ (attributeText ++ (trailing ++ '}' :: rest))).takeWhile isAsciiAlphanumeric)
            ((token ++ (attributeText ++ (trailing ++ '}' :: rest))).dropWhile isAsciiAlphanumeric) =
            some (⟨token, agentPattern⟩, rest) :=
          attributed?_of_form (Text.all_takeWhile _ _) (Text.stopsBefore_dropWhile _ _)
            tokenNonempty alphanumeric attributed ended List.takeWhile_append_dropWhile
        have runNonempty : (token ++ (attributeText ++ (trailing ++ '}' :: rest))).takeWhile
            isAsciiAlphanumeric ≠ [] := by
          obtain ⟨c, token, rfl⟩ := List.exists_cons_of_ne_nil tokenNonempty
          simp [alphanumeric c]
        have read := (opening?_run folded blanksNonempty blank runNonempty
          (Text.all_takeWhile _ _) (Text.stopsBefore_dropWhile _ _)).trans meant
        rw [List.takeWhile_append_dropWhile] at read
        simpa using read

theorem openingForm_iff {opening : Opening} {opened : Text} :
    OpeningForm opening opened ↔ opening? opened = some (opening, []) := by
  rw [opening?_eq_some_iff]
  constructor
  · intro form
    exact ⟨opened, form, (List.append_nil opened).symm⟩
  · rintro ⟨source, form, same⟩
    rw [same, List.append_nil]
    exact form

instance (opening : Opening) (opened : Text) : Decidable (OpeningForm opening opened) :=
  decidable_of_iff' _ openingForm_iff

/-! Closing markers -/

theorem afterClosing?_eq_some_iff {text rest : Text} :
    afterClosing? text = some rest ↔
      ∃ closing : Text, ClosingForm closing ∧ text = closing ++ rest := by
  constructor
  · intro found
    unfold afterClosing? at found
    split at found
    · rename_i inner
      rcases Option.bind_eq_some_iff.mp found with ⟨middle, keyworded, braced⟩
      rcases afterWord?_eq_some_iff.mp keyworded with ⟨word, folded, dropped⟩
      rcases afterBrace?_eq_some_iff.mp braced with ⟨trailing, ended, rfl⟩
      refine ⟨_, .marker (Text.all_takeWhile isBlank inner) folded ended, ?_⟩
      conv_lhs => rw [← List.takeWhile_append_dropWhile (p := isBlank) (l := inner), dropped]
      simp
    · cases found
  · rintro ⟨closing, form, rfl⟩
    cases form with
    | @marker leading word trailing started folded ended =>
        have stops : Text.StopsBefore isBlank (word ++ (trailing ++ '}' :: rest)) := by
          cases word with
          | nil => cases folded
          | cons c word =>
              exact Text.stopsBefore_cons.mpr
                (not_isBlank_of_alphanumeric (alphanumeric_of_keyword folded c (by simp)))
        have worded := afterWord?_eq_some_iff.mpr
          ⟨word, folded, (rfl : _ = word ++ (trailing ++ '}' :: rest))⟩
        have braced := afterBrace?_eq_some_iff.mpr
          ⟨trailing, ended, (rfl : _ = trailing ++ '}' :: rest)⟩
        simp only [afterClosing?, List.cons_append, List.append_assoc, List.nil_append,
          Text.dropWhile_run started stops, worded, Option.bind_some, braced]

theorem closingForm_iff {closing : Text} :
    ClosingForm closing ↔ afterClosing? closing = some [] := by
  rw [afterClosing?_eq_some_iff]
  constructor
  · intro form
    exact ⟨closing, form, (List.append_nil closing).symm⟩
  · rintro ⟨source, form, same⟩
    rw [same, List.append_nil]
    exact form

instance (closing : Text) : Decidable (ClosingForm closing) :=
  decidable_of_iff' _ closingForm_iff

theorem ClosingForm.mark_notMem_tail {closing : Text} (form : ClosingForm closing) :
    ∃ tail, closing = '{' :: tail ∧
      ∀ mark, isBlank mark = false → isAsciiAlphanumeric mark = false → mark ≠ '}' →
        mark ∉ tail := by
  cases form with
  | @marker leading word trailing started folded ended =>
      refine ⟨_, rfl, ?_⟩
      intro mark notBlank notLetter notBrace
      have inLeading := Text.mark_notMem started notBlank
      have inWord := Text.mark_notMem (alphanumeric_of_keyword folded) notLetter
      have inTrailing := Text.mark_notMem ended notBlank
      simp [inLeading, inWord, inTrailing, notBrace]

theorem ClosingForm.exists_tail {closing : Text} (form : ClosingForm closing) :
    ∃ tail, closing = '{' :: tail ∧ '{' ∉ tail := by
  rcases form.mark_notMem_tail with ⟨tail, same, absent⟩
  exact ⟨tail, same, absent '{' (by decide) (by decide) (by decide)⟩

theorem ClosingForm.quote_notMem {closing : Text} (form : ClosingForm closing) :
    '"' ∉ closing := by
  rcases form.mark_notMem_tail with ⟨tail, rfl, absent⟩
  have inTail := absent '"' (by decide) (by decide) (by decide)
  simp [inTail]

theorem ClosingForm.ne_nil {closing : Text} (form : ClosingForm closing) : closing ≠ [] := by
  rcases form.exists_tail with ⟨tail, rfl, _⟩
  simp

theorem HoldsClosing.append_left {text : Text} (holds : HoldsClosing text) (before : Text) :
    HoldsClosing (before ++ text) := by
  rcases holds with ⟨before', closing, after, form, rfl⟩
  exact ⟨before ++ before', closing, after, form, by simp⟩

theorem HoldsClosing.append_right {text : Text} (holds : HoldsClosing text) (after : Text) :
    HoldsClosing (text ++ after) := by
  rcases holds with ⟨before, closing, after', form, rfl⟩
  exact ⟨before, closing, after' ++ after, form, by simp⟩

theorem not_holdsClosing_nil : ¬ HoldsClosing [] := by
  rintro ⟨before, closing, after, form, split⟩
  rcases form.exists_tail with ⟨tail, rfl, _⟩
  simp at split

theorem holdsClosing_cons_iff {c : Char} {text : Text} :
    HoldsClosing (c :: text) ↔
      (∃ rest, afterClosing? (c :: text) = some rest) ∨ HoldsClosing text := by
  constructor
  · rintro ⟨before, closing, after, form, split⟩
    cases before with
    | nil => exact Or.inl ⟨after, afterClosing?_eq_some_iff.mpr ⟨closing, form, split⟩⟩
    | cons head before =>
        simp only [List.cons_append, List.cons.injEq] at split
        exact Or.inr ⟨before, closing, after, form, split.2⟩
  · rintro (⟨rest, closed⟩ | holds)
    · rcases afterClosing?_eq_some_iff.mp closed with ⟨closing, form, split⟩
      exact ⟨[], closing, rest, form, split⟩
    · exact holds.append_left [c]

theorem within_of_mark_notMem {mark head : Char} {tail after left right : Text}
    (absent : mark ∉ tail) (nonempty : left ≠ [])
    (same : head :: tail ++ after = left ++ mark :: right) :
    ∃ gap, left = head :: tail ++ gap ∧ after = gap ++ mark :: right := by
  cases left with
  | nil => contradiction
  | cons first left =>
      simp only [List.cons_append, List.cons.injEq] at same
      rcases same with ⟨rfl, same⟩
      rcases Text.append_of_mark_notMem absent same with ⟨gap, rfl, behind⟩
      exact ⟨gap, rfl, behind⟩

/-- The reader of bodies stops at the nearest closing marker. No closing marker begins in the body
and ends behind it, so the body is judged by itself. -/
theorem untilClosing?_eq_some_iff {text body rest : Text} :
    untilClosing? text = some (body, rest) ↔
      ¬ HoldsClosing body ∧
        ∃ closing, ClosingForm closing ∧ text = body ++ (closing ++ rest) := by
  constructor
  · intro found
    induction text generalizing body with
    | nil => cases found
    | cons c text ih =>
        simp only [untilClosing?] at found
        split at found
        · rename_i after closed
          cases found
          exact ⟨not_holdsClosing_nil, afterClosing?_eq_some_iff.mp closed⟩
        · rename_i notClosed
          rcases Option.map_eq_some_iff.mp found with ⟨⟨body', rest'⟩, later, same⟩
          cases same
          rcases ih later with ⟨unclosed, closing, form, rfl⟩
          refine ⟨?_, closing, form, rfl⟩
          rw [holdsClosing_cons_iff]
          rintro (⟨after, closed⟩ | holds)
          · rcases afterClosing?_eq_some_iff.mp closed with ⟨other, otherForm, split⟩
            have whole : c :: (body' ++ (closing ++ rest')) =
                other ++ (after ++ (closing ++ rest')) := by
              rw [← List.cons_append, split, List.append_assoc]
            have closedLonger := afterClosing?_eq_some_iff.mpr ⟨other, otherForm, whole⟩
            rw [notClosed] at closedLonger
            cases closedLonger
          · exact unclosed holds
  · rintro ⟨unclosed, closing, form, rfl⟩
    rcases form.exists_tail with ⟨tail, rfl, _⟩
    induction body with
    | nil =>
        have closed := afterClosing?_eq_some_iff.mpr ⟨_, form, (rfl : _ = '{' :: tail ++ rest)⟩
        rw [List.cons_append] at closed
        simp only [List.nil_append, List.cons_append, untilClosing?, closed]
    | cons c body ih =>
        have notHere : afterClosing? (c :: (body ++ ('{' :: tail ++ rest))) = none := by
          cases closed : afterClosing? (c :: (body ++ ('{' :: tail ++ rest))) with
          | none => rfl
          | some after =>
              rcases afterClosing?_eq_some_iff.mp closed with ⟨other, otherForm, split⟩
              rcases otherForm.exists_tail with ⟨otherTail, rfl, absent⟩
              have whole : '{' :: otherTail ++ after = (c :: body) ++ '{' :: (tail ++ rest) :=
                split.symm
              rcases within_of_mark_notMem absent (by simp) whole with ⟨gap, inBody, _⟩
              exact absurd ⟨[], _, gap, otherForm, inBody⟩ unclosed
        have later := ih (fun holds => unclosed (holds.append_left [c]))
        simp only [List.cons_append, untilClosing?] at notHere later ⊢
        simp only [notHere, later, Option.map_some]

theorem untilClosing?_isSome_iff {text : Text} :
    (untilClosing? text).isSome = true ↔ HoldsClosing text := by
  induction text with
  | nil => simp [untilClosing?, not_holdsClosing_nil]
  | cons c text ih =>
      rw [holdsClosing_cons_iff, ← ih, untilClosing?]
      cases afterClosing? (c :: text) <;> simp

instance (text : Text) : Decidable (HoldsClosing text) :=
  decidable_of_iff _ untilClosing?_isSome_iff

end ConditionalText.Marker
