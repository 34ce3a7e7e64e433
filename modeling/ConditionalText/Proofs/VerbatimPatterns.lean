import ConditionalText.Proofs.PatternOccurrence
import ConditionalText.Proofs.Rewriting

/-!
Patterns that write words character by character, with a backslash in front of each sign. Such a
pattern is read as a choice between its words, whatever characters they are made of, and it is
found in a user agent exactly where one of the words stands.
-/

namespace ConditionalText

namespace Pattern

def signs : List Char :=
  ['\\', '.', '+', '*', '?', '(', ')', '|', '[', ']', '{', '}', '^', '$', '#', '&', '-', '~']

def verbatimChar (c : Char) : Text :=
  if c ∈ signs then ['\\', c] else [c]

def verbatim (word : Text) : Text :=
  word.flatMap verbatimChar

/-- The words as branches of a choice. -/
def verbatimChoice (words : List Text) : Text :=
  ['|'].intercalate (words.map verbatim)

theorem verbatim_cons (c : Char) (word : Text) :
    verbatim (c :: word) = verbatimChar c ++ verbatim word := rfl

theorem verbatimChoice_cons (first : Text) (others : List Text) :
    verbatimChoice (first :: others) =
      verbatim first ++ others.flatMap (fun word => '|' :: verbatim word) := by
  induction others generalizing first with
  | nil => simp [verbatimChoice]
  | cons second others ih =>
      have shorter := ih second
      simp only [verbatimChoice, List.map_cons, List.intercalate_cons_cons] at shorter ⊢
      rw [shorter]
      simp

def ofWord (word : Text) : Pattern :=
  concatAll (word.map (fun c => .set (.single c)))

def oneOf : List Pattern → Pattern
  | [] => .empty
  | first :: others => alternatives first others

/-! Reading -/

theorem not_alphanumeric_of_sign {c : Char} (sign : c ∈ signs) : isAsciiAlphanumeric c = false := by
  have none : signs.any isAsciiAlphanumeric = false := rfl
  rw [List.any_eq_false] at none
  exact Bool.eq_false_of_not_eq_true (none c sign)

theorem escape?_sign {c : Char} (sign : c ∈ signs) (rest : Text) :
    escape? {} (c :: rest) = some (.char c false, rest) := by
  have differs : ∀ letter, isAsciiAlphanumeric letter = true → c ≠ letter := by
    intro letter alphanumeric same
    rw [← same, not_alphanumeric_of_sign sign] at alphanumeric
    cases alphanumeric
  have noClass : "dswDSW".toList.contains c = false := by
    have letters : "dswDSW".toList.all isAsciiAlphanumeric = true := rfl
    rw [List.contains_eq_mem, decide_eq_false_iff_not]
    intro member
    exact differs c (List.all_eq_true.mp letters c member) rfl
  have escapable : isEscapable c = true := by
    have isSign : isMeta c = true := by
      rw [isMeta, List.contains_iff_mem]
      exact sign
    rw [isEscapable, isSign, Bool.true_or]
  have noProperty : ¬ (c = 'p' ∨ c = 'P') := by
    rw [not_or]
    exact ⟨differs 'p' rfl, differs 'P' rfl⟩
  rw [escape?, if_neg (differs 'x' rfl), if_neg (differs 'u' rfl), if_neg (differs 'U' rfl),
    if_neg noProperty, noClass, escapable]
  rfl

/-- The text from here to the end makes the pattern complete, whatever number of rounds is allowed
beyond those needed. -/
def ReadsAs (group : OpenGroup) (text : Text) (pattern : Pattern) : Prop :=
  ∀ fuel, text.length < fuel → readGroups? fuel [] [] group text = some pattern

section

variable {group : OpenGroup} {rest : Text} {pattern : Pattern}

theorem ReadsAs.of_round {text : Text}
    (round : ∀ fuel, text.length ≤ fuel → readGroups? (fuel + 1) [] [] group text = some pattern) :
    ReadsAs group text pattern := by
  intro fuel enough
  cases fuel with
  | zero => exact absurd enough (Nat.not_lt_zero _)
  | succ fuel => exact round fuel (Nat.le_of_lt_succ enough)

theorem ReadsAs.plain {c : Char} (flags : group.flags = {}) (plain : c ∉ signs)
    (later : ReadsAs (group.addSet (.single c) 0) rest pattern) :
    ReadsAs group (c :: rest) pattern := by
  apply ReadsAs.of_round
  intro fuel enough
  have read := later fuel enough
  have differs : ∀ sign ∈ signs, c ≠ sign := by
    intro sign member same
    exact plain (same ▸ member)
  have element : plainElement? group c = some (group.addSet (.single c) 0) := by
    rw [plainElement?, if_neg (differs '.' (by decide)), if_neg (differs '^' (by decide)),
      if_neg (differs '$' (by decide)), flags]
    rfl
  have seen : ({} : Flags).skip (c :: rest) = c :: rest := rfl
  rw [readGroups?, flags, seen]
  split
  case h_1 ended => cases ended
  case h_11 same =>
    cases same
    rw [element]
    exact read
  all_goals
    rename_i same
    exact absurd (List.head_eq_of_cons_eq same) (differs _ (by decide))

theorem ReadsAs.escaped {c : Char} (flags : group.flags = {}) (sign : c ∈ signs)
    (later : ReadsAs (group.addSet (.single c) 0) rest pattern) :
    ReadsAs group ('\\' :: c :: rest) pattern := by
  apply ReadsAs.of_round
  intro fuel enough
  simp only [List.length_cons] at enough
  have read := later fuel (by omega)
  have seen : ({} : Flags).skip ('\\' :: c :: rest) = '\\' :: c :: rest := rfl
  have element : escapedElement? group (.char c false) = some (group.addSet (.single c) 0) := by
    rw [escapedElement?, flags]
    rfl
  rw [readGroups?, flags, seen]
  simp only [escape?_sign sign, Option.bind_eq_bind, Option.bind_some, element]
  exact read

theorem ReadsAs.bar (flags : group.flags = {}) (later : ReadsAs group.nextBranch rest pattern) :
    ReadsAs group ('|' :: rest) pattern := by
  apply ReadsAs.of_round
  intro fuel enough
  have read := later fuel enough
  have seen : ({} : Flags).skip ('|' :: rest) = '|' :: rest := rfl
  rw [readGroups?, flags, seen]
  exact read

theorem ReadsAs.stop (flags : group.flags = {}) (shallow : group.alternation.depth ≤ depthLimit) :
    ReadsAs group [] group.alternation.pattern := by
  apply ReadsAs.of_round
  intro fuel _
  have seen : ({} : Flags).skip [] = [] := rfl
  rw [readGroups?, flags, seen]
  simp [shallow]

theorem ReadsAs.verbatimChar (flags : group.flags = {}) (c : Char)
    (later : ReadsAs (group.addSet (.single c) 0) rest pattern) :
    ReadsAs group (verbatimChar c ++ rest) pattern := by
  rw [Pattern.verbatimChar]
  split
  · rename_i sign
    exact .escaped flags sign later
  · rename_i plain
    exact .plain flags plain later

end

/-! What has been read -/

theorem foldl_max_le {bound : Nat} (depths : List Nat) (small : ∀ depth ∈ depths, depth ≤ bound)
    {start : Nat} (low : start ≤ bound) : depths.foldl max start ≤ bound := by
  induction depths generalizing start with
  | nil => exact low
  | cons depth depths ih =>
      rw [List.forall_mem_cons] at small
      exact ih small.2 (Nat.max_le.mpr ⟨low, small.1⟩)

theorem depthOver_le {bound : Nat} {depths : List Nat} (small : ∀ depth ∈ depths, depth ≤ bound) :
    depthOver depths ≤ bound + 1 :=
  Nat.succ_le_succ (foldl_max_le depths small (Nat.zero_le bound))

theorem OpenGroup.alternation_pattern (group : OpenGroup) :
    group.alternation.pattern =
      oneOf ((group.branch :: group.branches).reverse.map Nested.pattern) := by
  rw [alternation]
  generalize (group.branch :: group.branches).reverse = listed
  split <;> rfl

theorem OpenGroup.alternation_depth_le {group : OpenGroup} {bound : Nat}
    (branch : group.branch.depth ≤ bound)
    (branches : ∀ nested ∈ group.branches, nested.depth ≤ bound) :
    group.alternation.depth ≤ bound + 1 := by
  have each : ∀ nested ∈ (group.branch :: group.branches).reverse, nested.depth ≤ bound := by
    intro nested member
    rw [List.mem_reverse, List.mem_cons] at member
    rcases member with rfl | member
    · exact branch
    · exact branches nested member
  rw [alternation]
  generalize (group.branch :: group.branches).reverse = listed at each
  split
  · exact Nat.zero_le _
  · rename_i only
    exact Nat.le_succ_of_le (each only List.mem_cons_self)
  · apply depthOver_le
    simpa using each

/-- The group has read the `earlier` words, one in each of its finished branches, and then the
characters of `word`. -/
structure HasRead (group : OpenGroup) (earlier : List Text) (word : Text) : Prop where
  flags : group.flags = {}
  elements : group.elements.reverse = word.map (fun c => .part ⟨.set (.single c), 0⟩)
  patterns : group.branches.reverse.map Nested.pattern = earlier.map ofWord
  shallow : ∀ nested ∈ group.branches, nested.depth ≤ 1

namespace HasRead

variable {group : OpenGroup} {earlier : List Text} {word : Text}

theorem start : HasRead (.start false {}) [] [] :=
  ⟨rfl, rfl, rfl, by simp [OpenGroup.start]⟩

theorem addSet (read : HasRead group earlier word) (c : Char) :
    HasRead (group.addSet (.single c) 0) earlier (word ++ [c]) where
  flags := read.flags
  elements := by simp [OpenGroup.addSet, OpenGroup.add, read.elements]
  patterns := read.patterns
  shallow := read.shallow

theorem branch_pattern (read : HasRead group earlier word) :
    group.branch.pattern = ofWord word := by
  have joined : concatAll ((group.elements.reverse.filterMap Element.nested?).map Nested.pattern) =
      ofWord word := by
    rw [read.elements, ofWord]
    simp [Element.nested?, List.filterMap_map, Function.comp_def]
  rw [OpenGroup.branch]
  split <;> exact joined

theorem branch_depth_le (read : HasRead group earlier word) : group.branch.depth ≤ 1 := by
  have flat : ∀ depth ∈ (group.elements.reverse.filterMap Element.nested?).map Nested.depth,
      depth ≤ 0 := by
    rw [read.elements]
    simp [Element.nested?]
  rw [OpenGroup.branch]
  split
  · exact Nat.zero_le 1
  · exact Nat.le_succ_of_le (foldl_max_le _ flat (Nat.le_refl 0))
  · exact depthOver_le flat

theorem nextBranch (read : HasRead group earlier word) :
    HasRead group.nextBranch (earlier ++ [word]) [] where
  flags := read.flags
  elements := rfl
  patterns := by simp [OpenGroup.nextBranch, read.patterns, read.branch_pattern]
  shallow := by
    simpa [OpenGroup.nextBranch] using ⟨read.branch_depth_le, read.shallow⟩

theorem stop (read : HasRead group earlier word) :
    ReadsAs group [] (oneOf ((earlier ++ [word]).map ofWord)) := by
  have pattern : group.alternation.pattern = oneOf ((earlier ++ [word]).map ofWord) := by
    rw [OpenGroup.alternation_pattern]
    simp [read.patterns, read.branch_pattern]
  have depth := OpenGroup.alternation_depth_le read.branch_depth_le read.shallow
  rw [← pattern]
  apply ReadsAs.stop read.flags
  exact Nat.le_trans depth (by decide)

/-- Reading the characters of a word one after the other. -/
theorem verbatim (read : HasRead group earlier word) {more rest : Text} {pattern : Pattern}
    (later : ∀ group', HasRead group' earlier (word ++ more) → ReadsAs group' rest pattern) :
    ReadsAs group (verbatim more ++ rest) pattern := by
  induction more generalizing group word with
  | nil => exact later group (by simpa using read)
  | cons c more ih =>
      rw [verbatim_cons, List.append_assoc]
      apply ReadsAs.verbatimChar read.flags
      apply ih (read.addSet c)
      simpa using later

theorem words (read : HasRead group earlier []) (first : Text) (others : List Text) :
    ReadsAs group
      (Pattern.verbatim first ++ others.flatMap (fun word => '|' :: Pattern.verbatim word))
      (oneOf ((earlier ++ first :: others).map ofWord)) := by
  induction others generalizing group earlier first with
  | nil =>
      apply read.verbatim
      intro group' read'
      exact read'.stop
  | cons second others ih =>
      apply read.verbatim
      intro group' read'
      apply ReadsAs.bar read'.flags
      have further := ih read'.nextBranch second
      rw [List.append_assoc] at further
      exact further

end HasRead

/-- Whatever the words are made of, the pattern is a choice between them. -/
theorem ofText?_verbatimChoice {words : List Text} (given : words ≠ []) :
    ofText? (verbatimChoice words) = some (oneOf (words.map ofWord)) := by
  obtain ⟨first, others, rfl⟩ := List.exists_cons_of_ne_nil given
  rw [ofText?, verbatimChoice_cons]
  exact HasRead.start.words first others _ (Nat.lt_succ_self _)

/-! Matching -/

theorem contains_single {c d : Char} : (CharSet.single c).contains d = true ↔ d = c := by
  rw [CharSet.single, CharSet.contains, Bool.and_eq_true, decide_eq_true_iff, decide_eq_true_iff]
  constructor
  · rintro ⟨least, most⟩
    exact Char.le_antisymm most least
  · rintro rfl
    exact ⟨Char.le_refl d, Char.le_refl d⟩

theorem matches_single (c : Char) {before within after : Text} :
    (set (.single c)).Matches before within after ↔ within = [c] := by
  simp [Matches, contains_single]

theorem matches_ofWord (word : Text) {before within after : Text} :
    (ofWord word).Matches before within after ↔ within = word := by
  induction word generalizing before within with
  | nil => rfl
  | cons c word ih =>
      cases word with
      | nil => exact matches_single c
      | cons d word =>
          have together : ofWord (c :: d :: word) = .concat (.set (.single c)) (ofWord (d :: word)) :=
            rfl
          simp only [together, Matches, contains_single, ih]
          constructor
          · rintro ⟨_, _, rfl, ⟨_, rfl, rfl⟩, rfl⟩
            rfl
          · rintro rfl
            exact ⟨[c], d :: word, rfl, ⟨c, rfl, rfl⟩, rfl⟩

theorem matches_oneOf {patterns : List Pattern} (given : patterns ≠ [])
    {before within after : Text} :
    (oneOf patterns).Matches before within after ↔
      ∃ pattern ∈ patterns, pattern.Matches before within after := by
  obtain ⟨first, others, rfl⟩ := List.exists_cons_of_ne_nil given
  rw [oneOf]
  induction others generalizing first with
  | nil => simp [alternatives]
  | cons second others ih =>
      rw [alternatives, Matches, ih second (List.cons_ne_nil second others)]
      simp only [List.exists_mem_cons_iff]

theorem occurs_oneOf_ofWord {words : List Text} (given : words ≠ []) (text : Text) :
    (oneOf (words.map ofWord)).Occurs text ↔ ∃ word ∈ words, word <:+: text := by
  have matched : ∀ before within after,
      (oneOf (words.map ofWord)).Matches before within after ↔ within ∈ words := by
    intro before within after
    rw [matches_oneOf (by simpa using given)]
    simp [matches_ofWord]
  constructor
  · rintro ⟨before, within, after, rfl, occurs⟩
    exact ⟨within, (matched before within after).mp occurs, before, after, rfl⟩
  · rintro ⟨word, member, before, after, rfl⟩
    exact ⟨before, word, after, rfl, (matched before word after).mpr member⟩

variable [PatternEngine]

/-- Nothing but the limit keeps the pattern from being used. -/
def TooLarge (text : Text) (sizeLimit : UInt64) : Prop :=
  compile text sizeLimit = .error (.tooLarge sizeLimit.toNat)

/-- The limit allows a choice between the words, and one of them is a stretch of the user agent. -/
def FindsWord (words : List Text) (sizeLimit : UInt64) (userAgent : Text) : Prop :=
  ¬ TooLarge (verbatimChoice words) sizeLimit ∧ ∃ word ∈ words, word <:+: userAgent

theorem compile_of_not_tooLarge {text : Text} {sizeLimit : UInt64} {pattern : Pattern}
    (read : ofText? text = some pattern) (small : ¬ TooLarge text sizeLimit) :
    compile text sizeLimit = .ok pattern := by
  have compiled : compile text sizeLimit =
      if PatternEngine.fits text sizeLimit then .ok pattern
      else .error (.tooLarge sizeLimit.toNat) := by
    rw [compile, read]
  by_cases fit : PatternEngine.fits text sizeLimit = true
  · rw [compiled, if_pos fit]
  · rw [if_neg fit] at compiled
    exact absurd compiled small

end Pattern

section

variable [PatternEngine] {words : List Text} {sizeLimit : UInt64}

theorem agentMatches_of_tooLarge {text : Text} (large : Pattern.TooLarge text sizeLimit)
    (userAgent : Text) :
    agentMatches text userAgent sizeLimit =
      .error (.agentPattern text (PatternEngine.describe text (.tooLarge sizeLimit.toNat))) := by
  rw [Pattern.TooLarge] at large
  rw [agentMatches, large]

theorem agentMatches_of_not_tooLarge (given : words ≠ [])
    (small : ¬ Pattern.TooLarge (Pattern.verbatimChoice words) sizeLimit) (userAgent : Text) :
    agentMatches (Pattern.verbatimChoice words) userAgent sizeLimit =
      .ok (decide (∃ word ∈ words, word <:+: userAgent)) := by
  have compiled := Pattern.compile_of_not_tooLarge (Pattern.ofText?_verbatimChoice given) small
  have found := Pattern.occurs_oneOf_ofWord given userAgent
  rw [← Pattern.occursIn_iff_occurs] at found
  rw [agentMatches_of_compile compiled, Bool.eq_iff_iff.mpr (found.trans decide_eq_true_iff.symm)]

theorem agentMatches_eq_ok_true_iff_findsWord (given : words ≠ []) (userAgent : Text) :
    agentMatches (Pattern.verbatimChoice words) userAgent sizeLimit = .ok true ↔
      Pattern.FindsWord words sizeLimit userAgent := by
  rw [Pattern.FindsWord]
  by_cases large : Pattern.TooLarge (Pattern.verbatimChoice words) sizeLimit
  · rw [agentMatches_of_tooLarge large]
    simp [large]
  · rw [agentMatches_of_not_tooLarge given large]
    simp [large]

end

/-- Words in which every sign has a backslash are searched for as they are, whatever characters they
hold. The pattern is always well formed; unless it is too large, it is found in the user agents of
which one of the words is a stretch, and in no others. For these user agents a block with such a
pattern keeps its body when its condition allows, wherever in a document it stands. -/
theorem agentMatches_verbatimChoice [PatternEngine] {words : List Text} (given : words ≠ [])
    (sizeLimit : UInt64) :
    (∀ userAgent,
      (agentMatches (Pattern.verbatimChoice words) userAgent sizeLimit = .ok true ↔
        Pattern.FindsWord words sizeLimit userAgent) ∧
      (agentMatches (Pattern.verbatimChoice words) userAgent sizeLimit = .ok false ↔
        ¬ Pattern.TooLarge (Pattern.verbatimChoice words) sizeLimit ∧
          ∀ word ∈ words, ¬ word <:+: userAgent) ∧
      ∀ failure, agentMatches (Pattern.verbatimChoice words) userAgent sizeLimit = .error failure ↔
        Pattern.TooLarge (Pattern.verbatimChoice words) sizeLimit ∧
          failure = .agentPattern (Pattern.verbatimChoice words)
            (PatternEngine.describe (Pattern.verbatimChoice words)
              (.tooLarge sizeLimit.toNat))) ∧
    ∀ (block : Block) (context : RequestContext),
      block.agentPattern = some (Pattern.verbatimChoice words) →
      Pattern.verbatimChoice words ≠ [] → block.condition.admits context.isService = true →
        (block.verdict context sizeLimit = .shown ↔
          Pattern.FindsWord words sizeLimit context.userAgent) ∧
        ∀ (settings : FilterSettings) (document source : Text) (earlier later : List Piece),
          settings.patternSizeLimit = sizeLimit → settings.Accepts document →
          Document.pieces document = earlier ++ .block source block :: later →
            (Pattern.FindsWord words sizeLimit context.userAgent →
              (settings.filter context document).value.text document =
                Document.splice (Block.replacement context sizeLimit) earlier ++
                  (block.body ++ Document.splice (Block.replacement context sizeLimit) later)) ∧
            (¬ Pattern.FindsWord words sizeLimit context.userAgent →
              (settings.filter context document).value.text document =
                Document.splice (Block.replacement context sizeLimit) earlier ++
                  Document.splice (Block.replacement context sizeLimit) later) := by
  constructor
  · intro userAgent
    refine ⟨agentMatches_eq_ok_true_iff_findsWord given userAgent, ?_⟩
    by_cases large : Pattern.TooLarge (Pattern.verbatimChoice words) sizeLimit
    · rw [agentMatches_of_tooLarge large]
      simp [large, eq_comm]
    · rw [agentMatches_of_not_tooLarge given large]
      simp [large]
  · intro block context attributed filled admitted
    have decided : block.verdict context sizeLimit = .shown ↔
        Pattern.FindsWord words sizeLimit context.userAgent := by
      rw [Block.verdict_eq_shown_iff_agentMatches filled attributed admitted,
        agentMatches_eq_ok_true_iff_findsWord given]
    refine ⟨decided, ?_⟩
    intro settings document source earlier later limit accepted cut
    subst limit
    rw [FilterSettings.filter_text_of_cut context accepted cut]
    constructor
    · intro found
      rw [Block.replacement_of_shown (decided.mpr found)]
    · intro missed
      rw [Block.replacement_of_not_shown (mt decided.mp missed), List.nil_append]

set_option maxRecDepth 10000 in
/-- A plus sign and a bar among the words; a small letter is no match for a capital. -/
theorem agentMatches_verbatimChoice_plus :
    let _engine : PatternEngine := .estimating (fun _ => "regex parse error".toList)
    let words : List Text := [['C', '+', '+'], ['a', '|', 'b']]
    let document : Text := "\x7bfws web ua=\"C\\+\\+|a\\|b\"\x7dx\x7bfws\x7d".toList
    words ≠ [] ∧
    (FilterSettings.filter {} (.web ['G', 'C', '+', '+', '4']) document).value.text document = ['x'] ∧
    (FilterSettings.filter {} (.web ['c', '+', '+']) document).value.text document = [] := by
  intro _engine words document
  have given : words ≠ [] := List.cons_ne_nil _ _
  have filled : Pattern.verbatimChoice words ≠ [] := by
    have written : Pattern.verbatimChoice words = "C\\+\\+|a\\|b".toList := by
      subst words
      cbv
    rw [written]
    exact List.cons_ne_nil _ _
  have small : ¬ Pattern.TooLarge (Pattern.verbatimChoice words) defaultPatternSizeLimit := by
    have fit :
        PatternEngine.fits (Pattern.verbatimChoice words) defaultPatternSizeLimit = true := by
      rw [PatternEngine.estimating_fits (Pattern.ofText?_verbatimChoice given)]
      exact Bool.or_eq_true_iff.mpr (Or.inl rfl)
    rw [Pattern.TooLarge, Pattern.compile, Pattern.ofText?_verbatimChoice given]
    simp [fit]
  have cut : Document.pieces document =
      [] ++ .block document ⟨.web, some (Pattern.verbatimChoice words), ['x']⟩ :: [] := by
    subst words document
    cbv
  have accepted : FilterSettings.Accepts {} document :=
    FilterSettings.accepts_of_maxInputBytes_eq_none rfl document
  have blocks := (agentMatches_verbatimChoice given defaultPatternSizeLimit).2
    ⟨.web, some (Pattern.verbatimChoice words), ['x']⟩
  refine ⟨given, ?_, ?_⟩
  · have decided := (blocks (.web ['G', 'C', '+', '+', '4']) rfl filled rfl).2
    exact (decided {} document document [] [] rfl accepted cut).1
      ⟨small, ['C', '+', '+'], List.mem_cons_self, ['G'], ['4'], rfl⟩
  · have decided := (blocks (.web ['c', '+', '+']) rfl filled rfl).2
    apply (decided {} document document [] [] rfl accepted cut).2
    rintro ⟨_, found⟩
    revert found
    decide

end ConditionalText
