import ConditionalText.Proofs.Refusal

/-!
What the filtering of a document leaves in the log. There is a line for each block that is not
shown, which says why it is not, in the order of the blocks; then one line sums up. Where no marker
can be, the log says just that.
-/

namespace ConditionalText

def Event.line [Wording] (event : Event) : Level × Text :=
  (event.level, event.message)

namespace Reported

def log [Wording] {α : Type} (reported : Reported α) : List (Level × Text) :=
  reported.events.map Event.line

end Reported

variable [PatternEngine]

namespace Block

/-- The line says why the block is not shown. -/
inductive SuppressedWith (context : RequestContext) (sizeLimit : UInt64) (block : Block) :
    Level × Text → Prop where
  | condition (refused : block.condition.admits context.isService = false) :
      SuppressedWith context sizeLimit block
        (.debug, "Suppressed '".toList ++ block.condition.word ++ "' block for ".toList ++
          context.channelName ++ " request".toList)
  | unusable {pattern : Text} {fault : PatternFault}
      (admitted : block.condition.admits context.isService = true)
      (attributed : block.agentPattern = some pattern)
      (failed : Pattern.compile pattern sizeLimit = .error fault) :
      SuppressedWith context sizeLimit block
        (.warn, "Invalid user agent pattern '".toList ++ pattern ++ "': ".toList ++
          PatternEngine.describe pattern fault)
  | mismatch {pattern : Text} {compiled : Pattern}
      (admitted : block.condition.admits context.isService = true)
      (attributed : block.agentPattern = some pattern)
      (usable : Pattern.compile pattern sizeLimit = .ok compiled)
      (missed : compiled.occursIn context.userAgent = false) :
      SuppressedWith context sizeLimit block
        (.debug, "User agent does not match '".toList ++ pattern ++ "', block suppressed".toList)

variable {block : Block} {context : RequestContext} {sizeLimit : UInt64}

theorem event?_of_refused (refused : block.condition.admits context.isService = false) :
    block.event? context sizeLimit = some (.blockSuppressed block.condition context.isService) := by
  rw [event?, verdict, refused]
  rfl

theorem event?_of_shown (filled : block.agentPattern ≠ some [])
    (shown : block.ShownTo context sizeLimit) : block.event? context sizeLimit = none := by
  rw [event?, (verdict_eq_shown_iff filled context sizeLimit).mpr shown]
  rfl

theorem event?_of_unusable {pattern : Text} {failure : FilterFailure}
    (admitted : block.condition.admits context.isService = true)
    (attributed : block.agentPattern = some pattern) (filled : pattern ≠ [])
    (failed : agentMatches pattern context.userAgent sizeLimit = .error failure) :
    block.event? context sizeLimit = some (.agentPatternInvalid failure) := by
  obtain ⟨c, rest, rfl⟩ := List.exists_cons_of_ne_nil filled
  simp only [event?, verdict, admitted, attributed, failed]
  rfl

theorem event?_of_mismatch {pattern : Text}
    (admitted : block.condition.admits context.isService = true)
    (attributed : block.agentPattern = some pattern) (filled : pattern ≠ [])
    (missed : agentMatches pattern context.userAgent sizeLimit = .ok false) :
    block.event? context sizeLimit = some (.agentMismatch pattern) := by
  obtain ⟨c, rest, rfl⟩ := List.exists_cons_of_ne_nil filled
  simp only [event?, verdict, admitted, attributed, missed]
  rfl

theorem exists_event_of_not_shown [Wording] (filled : block.agentPattern ≠ some [])
    (hidden : ¬ block.ShownTo context sizeLimit) :
    ∃ event, block.event? context sizeLimit = some event ∧
      block.SuppressedWith context sizeLimit event.line := by
  rw [ShownTo, ← Condition.admits_eq_true_iff] at hidden
  cases admitted : block.condition.admits context.isService with
  | false =>
      exact ⟨_, event?_of_refused admitted, .condition admitted⟩
  | true =>
      cases attributed : block.agentPattern with
      | none => simp [admitted, attributed] at hidden
      | some pattern =>
          have filled' : pattern ≠ [] := by
            intro empty
            exact filled (by rw [attributed, empty])
          cases built : Pattern.compile pattern sizeLimit with
          | error fault =>
              have failed : agentMatches pattern context.userAgent sizeLimit =
                  .error (.agentPattern pattern (PatternEngine.describe pattern fault)) := by
                rw [agentMatches, built]
              exact ⟨_, event?_of_unusable admitted attributed filled' failed,
                .unusable admitted attributed built⟩
          | ok compiled =>
              have missed : compiled.occursIn context.userAgent = false := by
                simpa [admitted, attributed, built] using hidden
              have tested : agentMatches pattern context.userAgent sizeLimit = .ok false := by
                rw [agentMatches, built, ← missed]
              exact ⟨_, event?_of_mismatch admitted attributed filled' tested,
                .mismatch admitted attributed built missed⟩

end Block

namespace Document

/-- From left to right, the blocks leave one line for each of them that is not shown, and none for
the others. -/
inductive Logged (context : RequestContext) (sizeLimit : UInt64) :
    List PlacedBlock → List (Level × Text) → Prop where
  | done : Logged context sizeLimit [] []
  | shown {block : PlacedBlock} {others : List PlacedBlock} {lines : List (Level × Text)}
      (shown : block.ShownTo context sizeLimit) (later : Logged context sizeLimit others lines) :
      Logged context sizeLimit (block :: others) lines
  | suppressed {block : PlacedBlock} {others : List PlacedBlock} {line : Level × Text}
      {lines : List (Level × Text)} (hidden : ¬ block.ShownTo context sizeLimit)
      (reason : block.SuppressedWith context sizeLimit line)
      (later : Logged context sizeLimit others lines) :
      Logged context sizeLimit (block :: others) (line :: lines)

theorem logged_events [Wording] {context : RequestContext} {sizeLimit : UInt64}
    (blocks : List PlacedBlock) (filled : ∀ block ∈ blocks, block.agentPattern ≠ some []) :
    Logged context sizeLimit blocks
      ((blocks.flatMap (fun block => (block.event? context sizeLimit).toList)).map Event.line) := by
  induction blocks with
  | nil => exact .done
  | cons block others ih =>
      have here := filled block List.mem_cons_self
      have later := ih (fun other member => filled other (List.mem_cons_of_mem block member))
      rw [List.flatMap_cons, List.map_append]
      by_cases shown : block.ShownTo context sizeLimit
      · rw [Block.event?_of_shown here shown]
        exact .shown shown later
      · obtain ⟨event, caused, reason⟩ := Block.exists_event_of_not_shown here shown
        rw [caused]
        exact .suppressed shown reason later

end Document

namespace FilterSettings

variable (settings : FilterSettings) (context : RequestContext)

theorem replaceBlock_events (text : Text) (progress : Progress) (block : PlacedBlock) :
    (settings.replaceBlock context text progress block).events =
      (block.event? context settings.patternSizeLimit).toList := by
  simp [replaceBlock, Block.evaluate]

theorem rewrite_events (text : Text) :
    (settings.rewrite context text).events =
      (Document.scan text).flatMap
          (fun block => (block.event? context settings.patternSizeLimit).toList) ++
        if Document.scan text = [] then []
        else [.filtered (Document.scan text).length context.isService text.utf8Length
          ((settings.rewrite context text).value.text text).utf8Length] := by
  obtain ⟨written, counted⟩ := settings.replaceBlocks_scan context text
  rw [rewrite_text, rewrite, Reported.bind_events,
    Reported.foldlM_events (settings.replaceBlock_events context text), counted]
  by_cases empty : Document.scan text = []
  · simp [empty]
  · have some_replaced : (Document.scan text).length ≠ 0 := by simpa using empty
    rw [if_neg some_replaced, if_neg empty]
    simp only [Reported.bind_events, Reported.pure_events, written]
    rfl

def summaryLine (context : RequestContext) (blocks inputBytes outputBytes : Nat) : Level × Text :=
  (.debug, "Filtered ".toList ++ Text.ofNat blocks ++ " block(s) for ".toList ++
    context.channelName ++ " request (".toList ++ Text.ofNat inputBytes ++ " -> ".toList ++
    Text.ofNat outputBytes ++ " bytes)".toList)

theorem rewrite_log [Wording] (text : Text) :
    ∃ lines, Document.Logged context settings.patternSizeLimit (Document.blocks text) lines ∧
      (settings.rewrite context text).log = lines ++
        if Document.blocks text = [] then []
        else [summaryLine context (Document.blocks text).length text.utf8Length
          ((settings.rewrite context text).value.text text).utf8Length] := by
  have filled : ∀ block ∈ Document.blocks text, block.agentPattern ≠ some [] := by
    intro block member
    obtain ⟨_, _, _, _, form, _⟩ := Document.exists_part_of_mem_blocks member
    exact form.agentPattern_ne_empty
  refine ⟨_, Document.logged_events (Document.blocks text) filled, ?_⟩
  rw [Reported.log, rewrite_events, List.map_append, ← Document.blocks_eq_scan]
  by_cases empty : Document.blocks text = []
  · rw [if_pos empty, if_pos empty]
    rfl
  · rw [if_neg empty, if_neg empty]
    rfl

/-- The log of a document that is filtered has a line for each block that is not shown, in order and
with the reason, and if there are blocks at all a last line with their number and the sizes of the
document before and after. A block that its condition hides is logged in one way whatever its
pattern is, as nothing looks at the pattern. A document without markers makes one line of its own
kind. -/
theorem tryFilter_log [Wording] (text : Text) :
    (Marker.mayContain text = false →
      (settings.tryFilter context text).log =
        [(.trace, "No block marker, skipping scan".toList)]) ∧
    (Marker.mayContain text = true → ∀ outcome,
      (settings.tryFilter context text).value = .ok outcome →
      ∃ lines, Document.Logged context settings.patternSizeLimit (Document.blocks text) lines ∧
        (settings.tryFilter context text).log = lines ++
          if Document.blocks text = [] then []
          else [summaryLine context (Document.blocks text).length text.utf8Length
            (outcome.text text).utf8Length]) ∧
    ∀ block : Block, block.condition.admits context.isService = false →
      ∀ pattern sizeLimit,
        Block.evaluate { block with agentPattern := pattern } context sizeLimit =
          block.evaluate context settings.patternSizeLimit := by
  refine ⟨?_, ?_, ?_⟩
  · intro absent
    rw [tryFilter, absent]
    rfl
  · intro present outcome tried
    have accepted := accepts_of_tryFilter_eq_ok context tried
    have within := exceededLimit?_eq_none_of_accepts accepted present
    have rewritten : (settings.rewrite context text).value = outcome := by
      rw [tryFilter_value_of_accepts context accepted] at tried
      exact Except.ok.inj tried
    have same : (settings.tryFilter context text).log = (settings.rewrite context text).log := by
      simp [tryFilter, present, within, Reported.log]
    rw [same, ← rewritten]
    exact settings.rewrite_log context text
  · intro block refused pattern sizeLimit
    simp [Block.evaluate, Block.replacement, Block.event?, Block.verdict, refused]

example : (tryFilter {} (.web [])
    "\x7bfws ws\x7dB\x7bfws\x7d\u00e4\x7bfws web\x7dC\x7bfws\x7d".toList).events =
      [.blockSuppressed .service false, .filtered 2 false 31 3] := by cbv

end FilterSettings

end ConditionalText
