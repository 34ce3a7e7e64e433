import ConditionalText.Proofs.JsonObjects
import ConditionalText.Proofs.LastStatement

/-!
Which JSON objects are settings. Each known member may come once and must have a value of its kind;
what it says is taken, and the defaults stand for what is not said. Neither the order of the members
nor any other member has a part in it. All other objects are refused as JSON.
-/

namespace ConditionalText

open Json (Document Members Node SameMembers Slot States Value)

/-! The kinds of values -/

def Json.Value.IsText (value : Value) (text : Text) : Prop :=
  value = .string text

/-- A number of 64 bits without sign. -/
def Json.Value.IsLimit (value : Value) (limit : UInt64) : Prop :=
  value = .integer limit.toNat

def Json.Value.IsBound (value : Value) : Option UInt64 → Prop
  | none => value = .null
  | some limit => value.IsLimit limit

theorem Json.Node.readText_eq_ok_iff (value : Value) (text : Text) :
    value.node.readText = .ok text ↔ value.IsText text := by
  cases value with
  | string content => simp [Value.node, readText, Value.IsText]
  | null | bool | integer | array | object => simp [Value.node, readText, Value.IsText]

theorem Json.Node.readUnsigned_eq_ok_iff (value : Value) (limit : UInt64) :
    value.node.readUnsigned = .ok limit ↔ value.IsLimit limit := by
  constructor
  · intro read
    cases value with
    | integer written =>
        cases written with
        | ofNat n =>
            have number : (Value.integer n).node = .number ⟨false, Text.ofNat n, none, none⟩ := rfl
            change (Value.integer n).node.readUnsigned = .ok limit at read
            rw [number, readUnsigned, Number.unsigned?, decimalValue_ofNat] at read
            split at read
            · rename_i found
              split at found
              · rename_i value fits
                cases found
                cases read
                change Value.integer n = .integer (UInt64.ofNat n).toNat
                rw [UInt64.toNat_ofNat_of_lt' fits]
              · cases found
            · cases read
        | negSucc n => cases read
    | null | bool | string | array | object => cases read
  · intro same
    rw [same]
    exact readUnsigned_integer limit

theorem Json.Node.readBound_eq_ok_iff (value : Value) (bound : Option UInt64) :
    value.node.readOptional readUnsigned = .ok bound ↔ value.IsBound bound := by
  constructor
  · intro read
    rcases of_readOptional_eq_ok read with ⟨null, rfl⟩ | ⟨limit, taken, rfl⟩
    · cases value with
      | null => rfl
      | bool | integer | string | array | object => cases null
    · exact (readUnsigned_eq_ok_iff value limit).mp taken
  · intro bounded
    cases bound with
    | none =>
        rw [bounded]
        rfl
    | some limit =>
        have taken := (readUnsigned_eq_ok_iff value limit).mpr bounded
        cases value with
        | integer => exact congrArg (Except.map some) taken
        | null | bool | string | array | object => cases bounded

/-! The classifier -/

namespace StatedClassifier

/-- The members say all of this about a classifier, and nothing else about its fields. -/
structure IsStatedBy (stated : StatedClassifier) (members : List (Text × Value)) : Prop where
  tokenFileEndpoint :
    States Value.IsText FieldName.tokenFileEndpoint members stated.tokenFileEndpoint
  tokenParam : States Value.IsText FieldName.tokenParam members stated.tokenParam
  appFileEndpoint : States Value.IsText FieldName.appFileEndpoint members stated.appFileEndpoint
  appAgentMarker : States Value.IsText FieldName.appAgentMarker members stated.appAgentMarker

def slots : List (Slot StatedClassifier) := [
  ⟨Text, FieldName.tokenFileEndpoint, Node.readText, tokenFileEndpoint⟩,
  ⟨Text, FieldName.tokenParam, Node.readText, tokenParam⟩,
  ⟨Text, FieldName.appFileEndpoint, Node.readText, appFileEndpoint⟩,
  ⟨Text, FieldName.appAgentMarker, Node.readText, appAgentMarker⟩]

theorem takesOnce_of_mem_slots :
    ∀ slot ∈ slots, Members.TakesOnce field slot.name slot.read slot.kept := by
  simp only [slots, List.forall_mem_cons]
  exact ⟨takesOnce_tokenFileEndpoint, takesOnce_tokenParam, takesOnce_appFileEndpoint,
    takesOnce_appAgentMarker, fun _ nowhere => absurd nowhere List.not_mem_nil⟩

theorem field_of_foreign (stated : StatedClassifier) (name : Text) (value : Node)
    (foreign : ∀ slot ∈ slots, name ≠ slot.name) : stated.field name value = none := by
  simp only [slots, List.forall_mem_cons] at foreign
  obtain ⟨endpoint, param, appEndpoint, appMarker, _⟩ := foreign
  rw [field, if_neg endpoint, if_neg param, if_neg appEndpoint, if_neg appMarker]

theorem eq_of_slots (stated stated' : StatedClassifier)
    (same : ∀ slot ∈ slots, slot.kept stated = slot.kept stated') : stated = stated' := by
  simp only [slots, List.forall_mem_cons] at same
  obtain ⟨endpoint, param, appEndpoint, appMarker, _⟩ := same
  cases stated
  cases stated'
  simp only [mk.injEq]
  exact ⟨endpoint, param, appEndpoint, appMarker⟩

theorem fold_eq_ok_iff {members : List (Text × Value)} {stated : StatedClassifier} :
    Members.fold field {} (Value.memberNodes members) = .ok stated ↔ stated.IsStatedBy members := by
  rw [Members.fold_eq_ok_iff takesOnce_of_mem_slots field_of_foreign eq_of_slots]
  simp only [slots, List.forall_mem_cons, Slot.Carries, Node.readText_eq_ok_iff]
  constructor
  · intro carries
    obtain ⟨endpoint, param, appEndpoint, appMarker, _⟩ := carries
    exact ⟨endpoint, param, appEndpoint, appMarker⟩
  · intro states
    exact ⟨states.tokenFileEndpoint, states.tokenParam, states.appFileEndpoint,
      states.appAgentMarker, fun _ nowhere => absurd nowhere List.not_mem_nil⟩

end StatedClassifier

def Json.Value.IsClassifier (value : Value) (settings : ClassifierSettings) : Prop :=
  ∃ members stated, value = .object members ∧ StatedClassifier.IsStatedBy stated members ∧
    stated.settings = settings

theorem Json.Value.isClassifier_object {members : List (Text × Value)}
    {settings : ClassifierSettings} :
    (Value.object members).IsClassifier settings ↔
      ∃ stated : StatedClassifier, stated.IsStatedBy members ∧ stated.settings = settings := by
  simp [IsClassifier]

theorem ClassifierSettings.ofNode_eq_ok_iff {value : Value} (noArray : ∀ items, value ≠ .array items)
    (settings : ClassifierSettings) :
    ofNode value.node = .ok settings ↔ value.IsClassifier settings := by
  constructor
  · intro read
    cases value with
    | object members =>
        obtain ⟨stated, folded, same⟩ := map_eq_ok_iff.mp read
        exact ⟨members, stated, rfl, StatedClassifier.fold_eq_ok_iff.mp folded, same⟩
    | array items => exact absurd rfl (noArray items)
    | null | bool | integer | string => cases read
  · intro described
    obtain ⟨members, stated, rfl, states, same⟩ := described
    exact map_eq_ok_iff.mpr ⟨stated, StatedClassifier.fold_eq_ok_iff.mpr states, same⟩

/-! The settings -/

namespace StatedSettings

/-- The members say all of this about settings, and nothing else about their fields. -/
structure IsStatedBy (stated : StatedSettings) (members : List (Text × Value)) : Prop where
  classifier : States Value.IsClassifier FieldName.classifier members stated.classifier
  patternSizeLimit :
    States Value.IsLimit FieldName.patternSizeLimit members stated.patternSizeLimit
  maxInputBytes : States Value.IsBound FieldName.maxInputBytes members stated.maxInputBytes

def slots : List (Slot StatedSettings) := [
  ⟨ClassifierSettings, FieldName.classifier, ClassifierSettings.ofNode, classifier⟩,
  ⟨UInt64, FieldName.patternSizeLimit, Node.readUnsigned, patternSizeLimit⟩,
  ⟨Option UInt64, FieldName.maxInputBytes, Node.readOptional Node.readUnsigned, maxInputBytes⟩]

theorem takesOnce_of_mem_slots :
    ∀ slot ∈ slots, Members.TakesOnce field slot.name slot.read slot.kept := by
  simp only [slots, List.forall_mem_cons]
  exact ⟨takesOnce_classifier, takesOnce_patternSizeLimit, takesOnce_maxInputBytes,
    fun _ nowhere => absurd nowhere List.not_mem_nil⟩

theorem field_of_foreign (stated : StatedSettings) (name : Text) (value : Node)
    (foreign : ∀ slot ∈ slots, name ≠ slot.name) : stated.field name value = none := by
  simp only [slots, List.forall_mem_cons] at foreign
  obtain ⟨classifier, limit, bound, _⟩ := foreign
  rw [field, if_neg classifier, if_neg limit, if_neg bound]

theorem eq_of_slots (stated stated' : StatedSettings)
    (same : ∀ slot ∈ slots, slot.kept stated = slot.kept stated') : stated = stated' := by
  simp only [slots, List.forall_mem_cons] at same
  obtain ⟨classifier, limit, bound, _⟩ := same
  cases stated
  cases stated'
  simp only [mk.injEq]
  exact ⟨classifier, limit, bound⟩

theorem fold_eq_ok_iff {members : List (Text × Value)} {stated : StatedSettings}
    (noArray : ∀ items, Json.valuesAt FieldName.classifier members ≠ [.array items]) :
    Members.fold field {} (Value.memberNodes members) = .ok stated ↔ stated.IsStatedBy members := by
  have readable : ∀ value settings, Json.valuesAt FieldName.classifier members = [value] →
      (ClassifierSettings.ofNode value.node = .ok settings ↔ value.IsClassifier settings) := by
    intro value settings single
    apply ClassifierSettings.ofNode_eq_ok_iff
    rintro items rfl
    exact noArray items single
  rw [Members.fold_eq_ok_iff takesOnce_of_mem_slots field_of_foreign eq_of_slots]
  simp only [slots, List.forall_mem_cons, Slot.Carries, Node.readUnsigned_eq_ok_iff,
    Node.readBound_eq_ok_iff]
  constructor
  · intro carries
    obtain ⟨classifier, limit, bound, _⟩ := carries
    exact ⟨classifier.imp (fun value settings single => (readable value settings single).mp),
      limit, bound⟩
  · intro states
    exact ⟨states.classifier.imp (fun value settings single => (readable value settings single).mpr),
      states.patternSizeLimit, states.maxInputBytes,
      fun _ nowhere => absurd nowhere List.not_mem_nil⟩

end StatedSettings

/-! Members that make no difference -/

namespace StatedClassifier

def known : List Text := [
  FieldName.tokenFileEndpoint, FieldName.tokenParam, FieldName.appFileEndpoint,
  FieldName.appAgentMarker]

abbrev SameObject : List (Text × Value) → List (Text × Value) → Prop :=
  SameMembers known (fun _ _ _ => False)

theorem isStatedBy_iff_of_same {members members' : List (Text × Value)}
    (same : SameObject members members') (stated : StatedClassifier) :
    stated.IsStatedBy members ↔ stated.IsStatedBy members' := by
  have texts : ∀ name ∈ known, ∀ content, States Value.IsText name members content ↔
      States Value.IsText name members' content :=
    fun _ listed => same.states_iff listed (fun _ _ _ exchanged => exchanged.elim)
  simp only [known, List.forall_mem_cons] at texts
  obtain ⟨endpoint, param, appEndpoint, appMarker, _⟩ := texts
  constructor
  · intro states
    exact ⟨(endpoint _).mp states.tokenFileEndpoint, (param _).mp states.tokenParam,
      (appEndpoint _).mp states.appFileEndpoint, (appMarker _).mp states.appAgentMarker⟩
  · intro states
    exact ⟨(endpoint _).mpr states.tokenFileEndpoint, (param _).mpr states.tokenParam,
      (appEndpoint _).mpr states.appFileEndpoint, (appMarker _).mpr states.appAgentMarker⟩

end StatedClassifier

namespace StatedSettings

def known : List Text := [
  FieldName.classifier, FieldName.patternSizeLimit, FieldName.maxInputBytes]

/-- Classifiers may be exchanged that differ only in order and in unknown members. -/
def SameValue (name : Text) (value value' : Value) : Prop :=
  name = FieldName.classifier ∧ ∃ members members', value = .object members ∧
    value' = .object members' ∧ StatedClassifier.SameObject members members'

abbrev SameObject : List (Text × Value) → List (Text × Value) → Prop :=
  SameMembers known SameValue

theorem isClassifier_iff_of_same {name : Text} {value value' : Value}
    (same : SameValue name value value') (settings : ClassifierSettings) :
    value.IsClassifier settings ↔ value'.IsClassifier settings := by
  obtain ⟨_, members, members', rfl, rfl, same⟩ := same
  simp only [Value.isClassifier_object, StatedClassifier.isStatedBy_iff_of_same same]

theorem isStatedBy_iff_of_same {members members' : List (Text × Value)}
    (same : SameObject members members') (stated : StatedSettings) :
    stated.IsStatedBy members ↔ stated.IsStatedBy members' := by
  have classifier :
      States Value.IsClassifier FieldName.classifier members stated.classifier ↔
        States Value.IsClassifier FieldName.classifier members' stated.classifier :=
    same.states_iff (by decide) (fun _ _ content exchanged =>
      isClassifier_iff_of_same exchanged content) _
  have limit :
      States Value.IsLimit FieldName.patternSizeLimit members stated.patternSizeLimit ↔
        States Value.IsLimit FieldName.patternSizeLimit members' stated.patternSizeLimit :=
    same.states_iff (by decide) (fun _ _ _ exchanged => absurd exchanged.1 (by decide)) _
  have bound :
      States Value.IsBound FieldName.maxInputBytes members stated.maxInputBytes ↔
        States Value.IsBound FieldName.maxInputBytes members' stated.maxInputBytes :=
    same.states_iff (by decide) (fun _ _ _ exchanged => absurd exchanged.1 (by decide)) _
  constructor
  · intro states
    exact ⟨classifier.mp states.classifier, limit.mp states.patternSizeLimit,
      bound.mp states.maxInputBytes⟩
  · intro states
    exact ⟨classifier.mpr states.classifier, limit.mpr states.patternSizeLimit,
      bound.mpr states.maxInputBytes⟩

theorem noArray_of_same {members members' : List (Text × Value)}
    (same : SameObject members members')
    (noArray : ∀ items, Json.valuesAt FieldName.classifier members ≠ [.array items])
    (items : List Value) : Json.valuesAt FieldName.classifier members' ≠ [.array items] := by
  intro single
  have arrays :
      States (fun value items => value = .array items) FieldName.classifier members (some items) ↔
        States (fun value items => value = .array items) FieldName.classifier members'
          (some items) := by
    apply same.states_iff (by decide)
    intro value value' items exchanged
    obtain ⟨_, _, _, rfl, rfl, _⟩ := exchanged
    simp
  obtain ⟨_, single', rfl⟩ := arrays.mpr ⟨_, single, rfl⟩
  exact noArray items single'

end StatedSettings

/-! Settings texts -/

/-- The text reads as the value, however it is written. -/
def Json.Value.WrittenAs (value : Value) (text : Text) : Prop :=
  Document.ofText text = ⟨value.node, true⟩

namespace FilterSettings

/-- The members say something about settings, each thing once and in its kind, and the defaults stand
for the rest. -/
def IsDescribedBy (settings : FilterSettings) (members : List (Text × Value)) : Prop :=
  ∃ stated : StatedSettings, stated.IsStatedBy members ∧ stated.settings = settings

theorem ofNode_object_eq_ok_iff {members : List (Text × Value)}
    (noArray : ∀ items, Json.valuesAt FieldName.classifier members ≠ [.array items])
    (settings : FilterSettings) :
    ofNode (Value.object members).node = .ok settings ↔ settings.IsDescribedBy members := by
  rw [Value.node, ofNode, map_eq_ok_iff]
  simp only [StatedSettings.fold_eq_ok_iff noArray]
  rfl

theorem parse_json_of_writtenAs {value : Value} {text : Text} (written : value.WrittenAs text)
    (settings : FilterSettings) :
    parse .json text = .ok settings ↔ ofNode value.node = .ok settings := by
  rw [parse_json_eq_ok_iff, written]
  exact and_iff_left rfl

theorem parse_json_cases (text : Text) :
    (∃ settings, parse .json text = .ok settings) ∨
      ∃ fault, parse .json text = .error (.json text fault) := by
  rw [parse]
  cases Document.decode ofNode text with
  | ok settings => exact Or.inl ⟨settings, rfl⟩
  | error fault => exact Or.inr ⟨fault, rfl⟩

/-- An object whose classifier is not an array is read as settings exactly if no known member is
repeated and each known member has a value of its kind; the settings are then what these members say,
with the defaults for the rest. Any other object is refused as JSON. The order of the members and
all unknown members, here and in the classifier, make no difference. -/
theorem parse_object {members : List (Text × Value)}
    (noArray : ∀ items, Json.valuesAt FieldName.classifier members ≠ [.array items]) {text : Text}
    (written : (Value.object members).WrittenAs text) :
    (Value.object members).WrittenAs (Value.object members).render ∧
    (∀ settings, parse .json text = .ok settings ↔ settings.IsDescribedBy members) ∧
    ((∃ fault, parse .json text = .error (.json text fault)) ↔
      ¬ ∃ settings : FilterSettings, settings.IsDescribedBy members) ∧
    ∀ members' text', StatedSettings.SameObject members members' →
      (Value.object members').WrittenAs text' →
      ∀ settings, parse .json text' = .ok settings ↔ parse .json text = .ok settings := by
  have read : ∀ settings, parse .json text = .ok settings ↔ settings.IsDescribedBy members := by
    intro settings
    rw [parse_json_of_writtenAs written, ofNode_object_eq_ok_iff noArray]
  refine ⟨Document.ofText_render _, read, ?_, ?_⟩
  · simp only [← read]
    constructor
    · intro refused accepted
      obtain ⟨fault, refused⟩ := refused
      obtain ⟨settings, accepted⟩ := accepted
      rw [refused] at accepted
      cases accepted
    · intro never
      exact (parse_json_cases text).resolve_left never
  · intro members' text' same written' settings
    rw [read, parse_json_of_writtenAs written',
      ofNode_object_eq_ok_iff (StatedSettings.noArray_of_same same noArray)]
    simp only [IsDescribedBy, StatedSettings.isStatedBy_iff_of_same same]

/-- The unknown member is repeated, the known ones come in another order than usual, one of them with
an escape in its name, and the limit is the largest there is. -/
theorem parse_object_rearranged :
    let text : Text := (" \x7b\"x\":[1,\x7b\"classifier\":2\x7d], \"maxInputBytes\":null,\"x\":true,\n" ++
      "\"\\u0063lassifier\" : \x7b\"?\":[[]],\"tokenParam\":\"\\u00e9\"\x7d," ++
      "\"uaPatternSizeLimit\":18446744073709551615\x7d ").toList
    let members : List (Text × Value) := [
      ("x".toList, .array [.integer 1, .object [("classifier".toList, .integer 2)]]),
      ("maxInputBytes".toList, .null),
      ("x".toList, .bool true),
      ("classifier".toList, .object [
        ("?".toList, .array [.array []]), ("tokenParam".toList, .string "\u00e9".toList)]),
      ("uaPatternSizeLimit".toList, .integer 18446744073709551615)]
    (∀ items, Json.valuesAt FieldName.classifier members ≠ [.array items]) ∧
    (Value.object members).WrittenAs text ∧
    (Value.object members).WrittenAs (Value.object members).render ∧
    (∀ settings, parse .json text = .ok settings ↔ settings.IsDescribedBy members) ∧
    ((∃ fault, parse .json text = .error (.json text fault)) ↔
      ¬ ∃ settings : FilterSettings, settings.IsDescribedBy members) ∧
    ∀ members' text', StatedSettings.SameObject members members' →
      (Value.object members').WrittenAs text' →
      ∀ settings, parse .json text' = .ok settings ↔ parse .json text = .ok settings := by
  intro text members
  have noArray : ∀ items, Json.valuesAt FieldName.classifier members ≠ [.array items] := by
    intro items single
    have known : Json.valuesAt FieldName.classifier members = [.object [
        ("?".toList, .array [.array []]), ("tokenParam".toList, .string "\u00e9".toList)]] := by
      subst members
      cbv
    rw [known] at single
    cases single
  have written : (Value.object members).WrittenAs text := by
    subst text members
    unfold Value.WrittenAs
    cbv
  exact ⟨noArray, written, parse_object noArray written⟩

end FilterSettings

end ConditionalText
