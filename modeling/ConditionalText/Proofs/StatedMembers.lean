import ConditionalText.Proofs.PartialSettings

/-!
What a JSON tree states about settings: the members that have the name of a field, or the items that
stand at its place. Settings that can be read from a tree are what the tree states, with the defaults
in all other fields.
-/

namespace ConditionalText

theorem bind_eq_ok_iff {ε α β : Type} {read : Except ε α} {next : α → Except ε β} {result : β} :
    read >>= next = .ok result ↔ ∃ value, read = .ok value ∧ next value = .ok result := by
  cases read with
  | error fault => simp [bind, Except.bind]
  | ok value => simp [bind, Except.bind]

theorem map_eq_ok_iff {ε α β : Type} {read : Except ε α} {change : α → β} {result : β} :
    read.map change = .ok result ↔ ∃ value, read = .ok value ∧ change value = result := by
  cases read with
  | error fault => simp [Except.map]
  | ok value => simp [Except.map]

namespace Json

theorem Document.decode_eq_ok_iff {α : Type} {read : Node → Except JsonFault α} {text : Text}
    {value : α} :
    decode read text = .ok value ↔
      read (ofText text).root = .ok value ∧ (ofText text).complete = true := by
  unfold decode
  rw [bind_eq_ok_iff]
  constructor
  · intro decoded
    obtain ⟨found, taken, finished⟩ := decoded
    split at finished
    · rename_i complete
      cases finished
      exact ⟨taken, complete⟩
    · cases finished
  · intro readable
    obtain ⟨taken, complete⟩ := readable
    exact ⟨value, taken, if_pos complete⟩

def Members.lookup? (name : Text) : Members → Option Node
  | .cons (.ok written) value others => if written = name then some value else lookup? name others
  | .cons (.error _) _ others => lookup? name others
  | _ => none

def Items.get? : Items → Nat → Option Node
  | .cons item _, 0 => some item
  | .cons _ others, place + 1 => get? others place
  | _, _ => none

def Node.field? (name : Text) (place : Nat) : Node → Option Node
  | .object members => members.lookup? name
  | .array items => items.get? place
  | _ => none

def Node.stated? {α : Type} (read : Node → Except JsonFault α) (name : Text) (place : Nat)
    (node : Node) : Option α :=
  (node.field? name place).bind (fun value => (read value).toOption)

namespace Members

variable {σ α : Type} {field : σ → Text → Node → Option (Except JsonFault σ)} {name : Text}
  {read : Node → Except JsonFault α} {kept : σ → Option α}

/-- A member with the given name is read and kept, unless there was one before; other members leave
alone what is kept of it. -/
structure TakesOnce (field : σ → Text → Node → Option (Except JsonFault σ)) (name : Text)
    (read : Node → Except JsonFault α) (kept : σ → Option α) : Prop where
  known : ∀ state value, field state name value ≠ none
  takes : ∀ {state value next}, field state name value = some (.ok next) →
    kept state = none ∧ ∃ content, read value = .ok content ∧ kept next = some content
  gives : ∀ {state value content}, kept state = none → read value = .ok content →
    ∃ next, field state name value = some (.ok next)
  leaves : ∀ {state other value next}, field state other value = some (.ok next) → other ≠ name →
    kept next = kept state

theorem TakesOnce.of_stateOnce {update : σ → Option α → σ}
    (here : ∀ state value,
      field state name value = some ((stateOnce (kept state) (read value)).map (update state)))
    (updated : ∀ state content, kept (update state content) = content)
    (leaves : ∀ {state other value next}, field state other value = some (.ok next) →
      other ≠ name → kept next = kept state) :
    TakesOnce field name read kept where
  known := by
    intro state value
    rw [here]
    exact Option.some_ne_none _
  takes := by
    intro state value next stepped
    rw [here, Option.some.injEq, map_eq_ok_iff] at stepped
    obtain ⟨content, taken, rfl⟩ := stepped
    rw [stateOnce] at taken
    split at taken
    · cases taken
    · rename_i unstated
      obtain ⟨value', present, rfl⟩ := map_eq_ok_iff.mp taken
      exact ⟨by simpa using unstated, value', present, updated _ _⟩
  gives := by
    intro state value content empty readable
    refine ⟨update state (some content), ?_⟩
    rw [here, empty, readable]
    rfl
  leaves := leaves

/-- What is kept stays, and where nothing has been kept before, the member with the name is read. -/
theorem TakesOnce.fold (once : TakesOnce field name read kept) {state final : σ}
    {members : Members} (folded : members.fold field state = .ok final) :
    (∀ content, kept state = some content → kept final = some content) ∧
      (kept state = none → (members.lookup? name).mapM read = .ok (kept final)) := by
  -- Both parts are needed at once: a member that is read here is kept by the members behind it.
  induction state, members using Members.fold.induct with
  | case1 state =>
      rw [Members.fold] at folded
      cases folded
      constructor
      · intro content held
        exact held
      · intro empty
        rw [empty]
        rfl
  | case2 state cause =>
      rw [Members.fold] at folded
      cases folded
  | case3 state cause skipped =>
      rw [Members.fold] at folded
      cases folded
  | case4 state written value others ihNext ihSame =>
      rw [Members.fold] at folded
      obtain ⟨word, rfl, entered⟩ := bind_eq_ok_iff.mp folded
      cases step : field state word value with
      | none =>
          rw [step] at entered
          obtain ⟨_, _, passed⟩ := bind_eq_ok_iff.mp entered
          have other : word ≠ name := by
            intro same
            subst same
            exact once.known _ _ step
          rw [lookup?, if_neg other]
          exact ihSame passed
      | some taken =>
          rw [step] at entered
          obtain ⟨next, rfl, passed⟩ := bind_eq_ok_iff.mp entered
          have later := ihNext next passed
          by_cases same : word = name
          · subst same
            obtain ⟨empty, content, present, held⟩ := once.takes step
            constructor
            · intro content' held'
              rw [empty] at held'
              cases held'
            · intro _
              rw [lookup?, if_pos rfl, Option.mapM_some, present, later.1 content held]
              rfl
          · rw [once.leaves step same] at later
            rw [lookup?, if_neg same]
            exact later

theorem TakesOnce.of_fold (once : TakesOnce field name read kept) {state final : σ}
    {members : Members} (empty : kept state = none)
    (folded : members.fold field state = .ok final) :
    (members.lookup? name).mapM read = .ok (kept final) :=
  (once.fold folded).2 empty

end Members

theorem Items.of_take_eq_ok {α : Type} {read : Node → Except JsonFault α} {default value : α}
    {items rest : Items} (taken : items.take read (.ok default) = .ok (value, rest)) :
    (∃ stated, (items.get? 0).mapM read = .ok stated ∧ value = stated.getD default) ∧
      ∀ place, rest.get? place = items.get? (place + 1) := by
  cases items with
  | closed =>
      cases taken
      exact ⟨⟨none, rfl, rfl⟩, fun _ => rfl⟩
  | fault cause => cases taken
  | cons item others =>
      obtain ⟨content, present, same⟩ := map_eq_ok_iff.mp taken
      cases same
      refine ⟨⟨some value, ?_, rfl⟩, fun _ => rfl⟩
      rw [get?, Option.mapM_some, present]
      rfl

theorem Node.stated?_of_mapM {α : Type} {read : Node → Except JsonFault α} {name : Text}
    {place : Nat} {node : Node} {stated : Option α}
    (readable : (node.field? name place).mapM read = .ok stated) :
    node.stated? read name place = stated := by
  unfold stated?
  cases held : node.field? name place with
  | none =>
      rw [held] at readable
      cases readable
      rfl
  | some value =>
      rw [held, Option.mapM_some] at readable
      obtain ⟨content, present, same⟩ := map_eq_ok_iff.mp readable
      rw [Option.bind_some, present, ← same]
      rfl

theorem Node.of_readOptional_eq_ok {α : Type} {read : Node → Except JsonFault α} {node : Node}
    {content : Option α} (present : node.readOptional read = .ok content) :
    (node = .null ∧ content = none) ∨ ∃ value, read node = .ok value ∧ content = some value := by
  unfold readOptional at present
  split at present
  · cases present
    exact Or.inl ⟨rfl, rfl⟩
  · obtain ⟨value, taken, rfl⟩ := map_eq_ok_iff.mp present
    exact Or.inr ⟨value, taken, rfl⟩

/-! What is stated in a written tree -/

theorem Members.lookup?_memberNodes (name : Text) (members : List (Text × Value)) :
    (Value.memberNodes members).lookup? name = (members.lookup name).map Value.node := by
  induction members with
  | nil => rfl
  | cons member others ih =>
      obtain ⟨written, value⟩ := member
      rw [Value.memberNodes, lookup?, List.lookup_cons]
      by_cases same : written = name
      · rw [if_pos same, beq_iff_eq.mpr same.symm]
        rfl
      · rw [if_neg same, beq_eq_false_iff_ne.mpr (Ne.symm same)]
        exact ih

theorem Node.field?_statedFields {fields : List (Text × Option Value)}
    (distinct : (fields.map Prod.fst).Nodup) {name : Text} {stated : Option Value}
    (member : (name, stated) ∈ fields) (place : Nat) :
    (Value.object (statedFields fields)).node.field? name place = stated.map Value.node := by
  rw [Value.node, Node.field?, Members.lookup?_memberNodes, lookup_statedFields distinct member]

theorem Node.stated?_statedFields {α : Type} {read : Node → Except JsonFault α}
    {write : α → Value} (written : ∀ value, read (write value).node = .ok value)
    {fields : List (Text × Option Value)} (distinct : (fields.map Prod.fst).Nodup)
    {name : Text} {stated : Option α} (member : (name, stated.map write) ∈ fields) (place : Nat) :
    (Value.object (statedFields fields)).node.stated? read name place = stated := by
  rw [Node.stated?, Node.field?_statedFields distinct member]
  cases stated with
  | none => rfl
  | some value =>
      rw [Option.map_some, Option.map_some, Option.bind_some, written]
      rfl

end Json

open Json (Items Members Node Value)

/-! The classifier -/

namespace StatedClassifier

def inJson (node : Node) : StatedClassifier where
  tokenFileEndpoint := node.stated? Node.readText FieldName.tokenFileEndpoint 0
  tokenParam := node.stated? Node.readText FieldName.tokenParam 1
  appFileEndpoint := node.stated? Node.readText FieldName.appFileEndpoint 2
  appAgentMarker := node.stated? Node.readText FieldName.appAgentMarker 3

theorem field_leaves {stated next : StatedClassifier} {name : Text} {value : Node}
    (stepped : stated.field name value = some (.ok next)) :
    (name ≠ FieldName.tokenFileEndpoint → next.tokenFileEndpoint = stated.tokenFileEndpoint) ∧
    (name ≠ FieldName.tokenParam → next.tokenParam = stated.tokenParam) ∧
    (name ≠ FieldName.appFileEndpoint → next.appFileEndpoint = stated.appFileEndpoint) ∧
    (name ≠ FieldName.appAgentMarker → next.appAgentMarker = stated.appAgentMarker) := by
  unfold field at stepped
  split at stepped
  · rename_i named
    obtain ⟨_, _, rfl⟩ := map_eq_ok_iff.mp (Option.some.inj stepped)
    exact ⟨fun other => absurd named other, fun _ => rfl, fun _ => rfl, fun _ => rfl⟩
  split at stepped
  · rename_i named
    obtain ⟨_, _, rfl⟩ := map_eq_ok_iff.mp (Option.some.inj stepped)
    exact ⟨fun _ => rfl, fun other => absurd named other, fun _ => rfl, fun _ => rfl⟩
  split at stepped
  · rename_i named
    obtain ⟨_, _, rfl⟩ := map_eq_ok_iff.mp (Option.some.inj stepped)
    exact ⟨fun _ => rfl, fun _ => rfl, fun other => absurd named other, fun _ => rfl⟩
  split at stepped
  · rename_i named
    obtain ⟨_, _, rfl⟩ := map_eq_ok_iff.mp (Option.some.inj stepped)
    exact ⟨fun _ => rfl, fun _ => rfl, fun _ => rfl, fun other => absurd named other⟩
  · cases stepped

theorem takesOnce_tokenFileEndpoint :
    Members.TakesOnce field FieldName.tokenFileEndpoint Node.readText tokenFileEndpoint :=
  .of_stateOnce (fun _ _ => if_pos rfl) (fun _ _ => rfl) (fun stepped => (field_leaves stepped).1)

theorem takesOnce_tokenParam :
    Members.TakesOnce field FieldName.tokenParam Node.readText tokenParam :=
  .of_stateOnce (fun _ _ => (if_neg (by decide)).trans (if_pos rfl)) (fun _ _ => rfl)
    (fun stepped => (field_leaves stepped).2.1)

theorem takesOnce_appFileEndpoint :
    Members.TakesOnce field FieldName.appFileEndpoint Node.readText appFileEndpoint :=
  .of_stateOnce
    (fun _ _ => (if_neg (by decide)).trans ((if_neg (by decide)).trans (if_pos rfl)))
    (fun _ _ => rfl) (fun stepped => (field_leaves stepped).2.2.1)

theorem takesOnce_appAgentMarker :
    Members.TakesOnce field FieldName.appAgentMarker Node.readText appAgentMarker :=
  .of_stateOnce
    (fun _ _ => (if_neg (by decide)).trans
      ((if_neg (by decide)).trans ((if_neg (by decide)).trans (if_pos rfl))))
    (fun _ _ => rfl) (fun stepped => (field_leaves stepped).2.2.2)

theorem eq_inJson_of_fold {members : Members} {stated : StatedClassifier}
    (folded : members.fold field {} = .ok stated) : inJson (.object members) = stated := by
  have endpoint := takesOnce_tokenFileEndpoint.of_fold rfl folded
  have param := takesOnce_tokenParam.of_fold rfl folded
  have appEndpoint := takesOnce_appFileEndpoint.of_fold rfl folded
  have appMarker := takesOnce_appAgentMarker.of_fold rfl folded
  rw [inJson, Node.stated?_of_mapM endpoint, Node.stated?_of_mapM param,
    Node.stated?_of_mapM appEndpoint, Node.stated?_of_mapM appMarker]

theorem settings_of_ofItems {items : Items} {settings : ClassifierSettings}
    (read : ClassifierSettings.ofItems items = .ok settings) :
    settings = (inJson (.array items)).settings := by
  obtain ⟨⟨_, items₁⟩, first, read⟩ := bind_eq_ok_iff.mp read
  obtain ⟨⟨_, items₂⟩, second, read⟩ := bind_eq_ok_iff.mp read
  obtain ⟨⟨_, items₃⟩, third, read⟩ := bind_eq_ok_iff.mp read
  obtain ⟨⟨_, items₄⟩, fourth, read⟩ := bind_eq_ok_iff.mp read
  obtain ⟨_, _, same⟩ := bind_eq_ok_iff.mp read
  cases same
  obtain ⟨⟨endpoint, statesEndpoint, rfl⟩, shifted₁⟩ := Items.of_take_eq_ok first
  obtain ⟨⟨param, statesParam, rfl⟩, shifted₂⟩ := Items.of_take_eq_ok second
  obtain ⟨⟨appEndpoint, statesAppEndpoint, rfl⟩, shifted₃⟩ := Items.of_take_eq_ok third
  obtain ⟨⟨appMarker, statesAppMarker, rfl⟩, _⟩ := Items.of_take_eq_ok fourth
  rw [shifted₁] at statesParam
  rw [shifted₂, shifted₁] at statesAppEndpoint
  rw [shifted₃, shifted₂, shifted₁] at statesAppMarker
  rw [inJson, Node.stated?_of_mapM statesEndpoint, Node.stated?_of_mapM statesParam,
    Node.stated?_of_mapM statesAppEndpoint, Node.stated?_of_mapM statesAppMarker]
  rfl

/-- A classifier that can be read is what the tree states, with the defaults for the rest. -/
theorem settings_of_ofNode {node : Node} {settings : ClassifierSettings}
    (read : ClassifierSettings.ofNode node = .ok settings) :
    settings = (inJson node).settings := by
  cases node with
  | array items => exact settings_of_ofItems read
  | object members =>
      obtain ⟨stated, folded, same⟩ := map_eq_ok_iff.mp read
      rw [← same, eq_inJson_of_fold folded]
  | null | bool | number | string | missing | brokenString | brokenScalar => cases read

theorem inJson_toJson (stated : StatedClassifier) :
    inJson stated.toJson.node = stated := by
  have found : ∀ name part place, (name, part.map Value.string) ∈ stated.fields Value.string →
      stated.toJson.node.stated? Node.readText name place = part :=
    fun _ _ place member =>
      Node.stated?_statedFields (fun _ => rfl) (stated.distinct_fields _) member place
  rw [inJson, found _ stated.tokenFileEndpoint 0 (by simp [fields]),
    found _ stated.tokenParam 1 (by simp [fields]),
    found _ stated.appFileEndpoint 2 (by simp [fields]),
    found _ stated.appAgentMarker 3 (by simp [fields])]

end StatedClassifier

/-! The settings -/

namespace StatedSettings

theorem field_leaves {stated next : StatedSettings} {name : Text} {value : Node}
    (stepped : stated.field name value = some (.ok next)) :
    (name ≠ FieldName.classifier → next.classifier = stated.classifier) ∧
    (name ≠ FieldName.patternSizeLimit → next.patternSizeLimit = stated.patternSizeLimit) ∧
    (name ≠ FieldName.maxInputBytes → next.maxInputBytes = stated.maxInputBytes) := by
  unfold field at stepped
  split at stepped
  · rename_i named
    obtain ⟨_, _, rfl⟩ := map_eq_ok_iff.mp (Option.some.inj stepped)
    exact ⟨fun other => absurd named other, fun _ => rfl, fun _ => rfl⟩
  split at stepped
  · rename_i named
    obtain ⟨_, _, rfl⟩ := map_eq_ok_iff.mp (Option.some.inj stepped)
    exact ⟨fun _ => rfl, fun other => absurd named other, fun _ => rfl⟩
  split at stepped
  · rename_i named
    obtain ⟨_, _, rfl⟩ := map_eq_ok_iff.mp (Option.some.inj stepped)
    exact ⟨fun _ => rfl, fun _ => rfl, fun other => absurd named other⟩
  · cases stepped

theorem takesOnce_classifier :
    Members.TakesOnce field FieldName.classifier ClassifierSettings.ofNode classifier :=
  .of_stateOnce (fun _ _ => if_pos rfl) (fun _ _ => rfl) (fun stepped => (field_leaves stepped).1)

theorem takesOnce_patternSizeLimit :
    Members.TakesOnce field FieldName.patternSizeLimit Node.readUnsigned patternSizeLimit :=
  .of_stateOnce (fun _ _ => (if_neg (by decide)).trans (if_pos rfl)) (fun _ _ => rfl)
    (fun stepped => (field_leaves stepped).2.1)

theorem takesOnce_maxInputBytes :
    Members.TakesOnce field FieldName.maxInputBytes (Node.readOptional Node.readUnsigned)
      maxInputBytes :=
  .of_stateOnce
    (fun _ _ => (if_neg (by decide)).trans ((if_neg (by decide)).trans (if_pos rfl)))
    (fun _ _ => rfl) (fun stepped => (field_leaves stepped).2.2)

end StatedSettings

namespace PartialSettings

/-- What a tree states. To say that there is no limit is to state none. -/
def inJson (node : Node) : PartialSettings where
  classifier := (node.field? FieldName.classifier 0).map StatedClassifier.inJson
  patternSizeLimit := node.stated? Node.readUnsigned FieldName.patternSizeLimit 1
  maxInputBytes := node.stated? Node.readUnsigned FieldName.maxInputBytes 2

theorem classifier_of_mapM {node : Option Node} {read : Option ClassifierSettings}
    (readable : node.mapM ClassifierSettings.ofNode = .ok read) :
    read = (node.map StatedClassifier.inJson).map StatedClassifier.settings := by
  cases node with
  | none =>
      cases readable
      rfl
  | some value =>
      rw [Option.mapM_some] at readable
      obtain ⟨settings, present, same⟩ := map_eq_ok_iff.mp readable
      rw [← same, StatedClassifier.settings_of_ofNode present]
      rfl

theorem limit_of_mapM {node : Node} {name : Text} {place : Nat} {read : Option (Option UInt64)}
    (readable : (node.field? name place).mapM (Node.readOptional Node.readUnsigned) = .ok read) :
    read.getD none = node.stated? Node.readUnsigned name place := by
  unfold Node.stated?
  cases held : node.field? name place with
  | none =>
      rw [held] at readable
      cases readable
      rfl
  | some value =>
      rw [held, Option.mapM_some] at readable
      obtain ⟨content, present, rfl⟩ := map_eq_ok_iff.mp readable
      rcases Node.of_readOptional_eq_ok present with ⟨rfl, rfl⟩ | ⟨limit, taken, rfl⟩
      · rfl
      · rw [Option.bind_some, taken]
        rfl

theorem settings_eq_of_mapM {node : Node} {classifier : Option ClassifierSettings}
    {limit : Option UInt64} {bound : Option (Option UInt64)}
    (statesClassifier :
      (node.field? FieldName.classifier 0).mapM ClassifierSettings.ofNode = .ok classifier)
    (statesLimit : (node.field? FieldName.patternSizeLimit 1).mapM Node.readUnsigned = .ok limit)
    (statesBound : (node.field? FieldName.maxInputBytes 2).mapM
      (Node.readOptional Node.readUnsigned) = .ok bound) :
    StatedSettings.settings ⟨classifier, limit, bound⟩ = (inJson node).settings := by
  have same := limit_of_mapM statesBound
  rw [← settings_ofStated, inJson, Node.stated?_of_mapM statesLimit, ← same,
    classifier_of_mapM statesClassifier]
  cases bound with
  | none => rfl
  | some bound => cases bound <;> rfl

theorem settings_of_ofNode {node : Node} {settings : FilterSettings}
    (read : FilterSettings.ofNode node = .ok settings) : settings = (inJson node).settings := by
  cases node with
  | array items =>
      obtain ⟨⟨_, items₁⟩, first, read⟩ := bind_eq_ok_iff.mp read
      obtain ⟨⟨_, items₂⟩, second, read⟩ := bind_eq_ok_iff.mp read
      obtain ⟨⟨_, items₃⟩, third, read⟩ := bind_eq_ok_iff.mp read
      obtain ⟨_, _, same⟩ := bind_eq_ok_iff.mp read
      cases same
      obtain ⟨⟨classifier, statesClassifier, rfl⟩, shifted₁⟩ := Items.of_take_eq_ok first
      obtain ⟨⟨limit, statesLimit, rfl⟩, shifted₂⟩ := Items.of_take_eq_ok second
      obtain ⟨⟨bound, statesBound, rfl⟩, _⟩ := Items.of_take_eq_ok third
      rw [shifted₁] at statesLimit
      rw [shifted₂, shifted₁] at statesBound
      exact settings_eq_of_mapM statesClassifier statesLimit statesBound
  | object members =>
      obtain ⟨stated, folded, same⟩ := map_eq_ok_iff.mp read
      rw [← same]
      exact settings_eq_of_mapM (StatedSettings.takesOnce_classifier.of_fold rfl folded)
        (StatedSettings.takesOnce_patternSizeLimit.of_fold rfl folded)
        (StatedSettings.takesOnce_maxInputBytes.of_fold rfl folded)
  | null | bool | number | string | missing | brokenString | brokenScalar => cases read

theorem inJson_toJson (stated : PartialSettings) :
    inJson stated.toJson.node = stated := by
  have distinct : (((FieldName.classifier, stated.classifier.map StatedClassifier.toJson) ::
      stated.limits (fun limit => Value.integer limit)).map Prod.fst).Nodup := by
    change [FieldName.classifier, FieldName.patternSizeLimit, FieldName.maxInputBytes].Nodup
    decide
  have classifier : stated.toJson.node.field? FieldName.classifier 0 =
      (stated.classifier.map StatedClassifier.toJson).map Value.node :=
    Node.field?_statedFields distinct List.mem_cons_self 0
  have limit : stated.toJson.node.stated? Node.readUnsigned FieldName.patternSizeLimit 1 =
      stated.patternSizeLimit :=
    Node.stated?_statedFields Node.readUnsigned_integer distinct
      (List.mem_cons_of_mem _ List.mem_cons_self) 1
  have bound : stated.toJson.node.stated? Node.readUnsigned FieldName.maxInputBytes 2 =
      stated.maxInputBytes :=
    Node.stated?_statedFields Node.readUnsigned_integer distinct
      (List.mem_cons_of_mem _ (List.mem_cons_of_mem _ List.mem_cons_self)) 2
  have inner : (StatedClassifier.inJson ∘ Value.node) ∘ StatedClassifier.toJson = id :=
    funext StatedClassifier.inJson_toJson
  rw [inJson, classifier, limit, bound, Option.map_map, Option.map_map, inner, Option.map_id]
  rfl

end PartialSettings

end ConditionalText
