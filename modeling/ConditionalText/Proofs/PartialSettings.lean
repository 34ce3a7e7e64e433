import ConditionalText.Proofs.JsonText
import ConditionalText.Proofs.StatedFields
import ConditionalText.Settings.Json

/-!
Settings of which only some fields are stated, and their JSON text. It is read as the stated values,
with the defaults in all other fields.
-/

namespace ConditionalText

open Json (Members Node Value)

/-- What a settings text may state: any of the fields, and any of those of the classifier if it
speaks of the classifier at all. -/
structure PartialSettings where
  classifier : Option StatedClassifier := none
  patternSizeLimit : Option UInt64 := none
  maxInputBytes : Option UInt64 := none
  deriving Repr, DecidableEq

namespace PartialSettings

/-- The stated values, and the defaults where nothing is stated. -/
def settings (stated : PartialSettings) : FilterSettings :=
  let default : FilterSettings := {}
  let inClassifier : StatedClassifier := stated.classifier.getD {}
  { classifier := {
      tokenFileEndpoint :=
        inClassifier.tokenFileEndpoint.getD default.classifier.tokenFileEndpoint
      tokenParam := inClassifier.tokenParam.getD default.classifier.tokenParam
      appFileEndpoint := inClassifier.appFileEndpoint.getD default.classifier.appFileEndpoint
      appAgentMarker := inClassifier.appAgentMarker.getD default.classifier.appAgentMarker }
    patternSizeLimit := stated.patternSizeLimit.getD default.patternSizeLimit
    maxInputBytes := stated.maxInputBytes }

/-- The same by way of the fields that a reader keeps. -/
theorem settings_ofStated (stated : PartialSettings) :
    StatedSettings.settings ⟨stated.classifier.map StatedClassifier.settings,
      stated.patternSizeLimit, stated.maxInputBytes.map some⟩ = stated.settings := by
  obtain ⟨classifier, patternSizeLimit, maxInputBytes⟩ := stated
  cases classifier with
  | none => cases maxInputBytes <;> rfl
  | some classifier => cases maxInputBytes <;> rfl

def ofSettings (settings : FilterSettings) : PartialSettings where
  classifier := some {
    tokenFileEndpoint := some settings.classifier.tokenFileEndpoint
    tokenParam := some settings.classifier.tokenParam
    appFileEndpoint := some settings.classifier.appFileEndpoint
    appAgentMarker := some settings.classifier.appAgentMarker }
  patternSizeLimit := some settings.patternSizeLimit
  maxInputBytes := settings.maxInputBytes

theorem settings_ofSettings (settings : FilterSettings) :
    (ofSettings settings).settings = settings :=
  rfl

end PartialSettings

def StatedClassifier.fields {β : Type} (stated : StatedClassifier) (write : Text → β) :
    List (Text × Option β) := [
  (FieldName.tokenFileEndpoint, stated.tokenFileEndpoint.map write),
  (FieldName.tokenParam, stated.tokenParam.map write),
  (FieldName.appFileEndpoint, stated.appFileEndpoint.map write),
  (FieldName.appAgentMarker, stated.appAgentMarker.map write)]

theorem StatedClassifier.names_fields {β : Type} (stated : StatedClassifier) (write : Text → β) :
    (stated.fields write).map Prod.fst = [FieldName.tokenFileEndpoint, FieldName.tokenParam,
      FieldName.appFileEndpoint, FieldName.appAgentMarker] :=
  rfl

theorem StatedClassifier.distinct_fields {β : Type} (stated : StatedClassifier)
    (write : Text → β) : ((stated.fields write).map Prod.fst).Nodup := by
  rw [names_fields]
  decide

def PartialSettings.limits {β : Type} (stated : PartialSettings) (write : Nat → β) :
    List (Text × Option β) := [
  (FieldName.patternSizeLimit, stated.patternSizeLimit.map (fun limit => write limit.toNat)),
  (FieldName.maxInputBytes, stated.maxInputBytes.map (fun limit => write limit.toNat))]

theorem PartialSettings.names_limits {β : Type} (stated : PartialSettings) (write : Nat → β) :
    (stated.limits write).map Prod.fst = [FieldName.patternSizeLimit, FieldName.maxInputBytes] :=
  rfl

/-! The JSON text -/

def StatedClassifier.toJson (stated : StatedClassifier) : Value :=
  .object (statedFields (stated.fields .string))

def PartialSettings.toJson (stated : PartialSettings) : Value :=
  .object (statedFields
    ((FieldName.classifier, stated.classifier.map StatedClassifier.toJson) ::
      stated.limits (fun limit => .integer limit)))

theorem Json.Node.readUnsigned_integer (value : UInt64) :
    (Value.integer value.toNat).node.readUnsigned = .ok value := by
  have written : (Value.integer value.toNat).node =
      .number ⟨false, Text.ofNat value.toNat, none, none⟩ := rfl
  have fits : Json.decimalValue (Text.ofNat value.toNat) < UInt64.size := by
    rw [Json.decimalValue_ofNat]
    exact value.toNat_lt_size
  rw [written, Node.readUnsigned, Json.Number.unsigned?, if_pos fits, Json.decimalValue_ofNat,
    UInt64.ofNat_toNat]

theorem Json.Members.fold_statedFields {σ α : Type}
    {field : σ → Text → Node → Option (Except JsonFault σ)} {state next : σ} {name : Text}
    {write : α → Value} {stated : Option α} (fields : List (Text × Option Value))
    (absent : stated = none → state = next)
    (read : ∀ value, stated = some value →
      field state name (write value).node = some (.ok next)) :
    Members.fold field state
        (Value.memberNodes (statedFields ((name, stated.map write) :: fields))) =
      Members.fold field next (Value.memberNodes (statedFields fields)) := by
  cases stated with
  | none =>
      rw [absent rfl]
      rfl
  | some value =>
      have written : Value.memberNodes (statedFields ((name, some (write value)) :: fields)) =
          .cons (.ok name) (write value).node (Value.memberNodes (statedFields fields)) := rfl
      rw [Option.map_some, written, Members.fold]
      simp [bind, Except.bind, read value rfl]

theorem StatedClassifier.ofNode_toJson (stated : StatedClassifier) :
    ClassifierSettings.ofNode stated.toJson.node = .ok stated.settings := by
  have read :=
    calc Members.fold field {} (Value.memberNodes (statedFields (stated.fields .string)))
      _ = Members.fold field ⟨stated.tokenFileEndpoint, none, none, none⟩ _ :=
        Members.fold_statedFields _ (fun absent => by rw [absent])
          (fun value present => by rw [present]; rfl)
      _ = Members.fold field ⟨stated.tokenFileEndpoint, stated.tokenParam, none, none⟩ _ :=
        Members.fold_statedFields _ (fun absent => by rw [absent])
          (fun value present => by rw [present]; rfl)
      _ = Members.fold field
            ⟨stated.tokenFileEndpoint, stated.tokenParam, stated.appFileEndpoint, none⟩ _ :=
        Members.fold_statedFields _ (fun absent => by rw [absent])
          (fun value present => by rw [present]; rfl)
      _ = Members.fold field ⟨stated.tokenFileEndpoint, stated.tokenParam,
            stated.appFileEndpoint, stated.appAgentMarker⟩ _ :=
        Members.fold_statedFields [] (fun absent => by rw [absent])
          (fun value present => by rw [present]; rfl)
      _ = .ok stated := rfl
  rw [toJson, Value.node, ClassifierSettings.ofNode, read]
  rfl

namespace StatedSettings

variable (stated : StatedSettings)

theorem field_classifier (unstated : stated.classifier = none) (value : StatedClassifier) :
    stated.field FieldName.classifier value.toJson.node =
      some (.ok { stated with classifier := some value.settings }) := by
  rw [field, if_pos rfl, unstated, value.ofNode_toJson]
  rfl

theorem field_patternSizeLimit (unstated : stated.patternSizeLimit = none) (value : UInt64) :
    stated.field FieldName.patternSizeLimit (Value.integer value.toNat).node =
      some (.ok { stated with patternSizeLimit := some value }) := by
  rw [field, if_neg (by decide), if_pos rfl, unstated, Node.readUnsigned_integer]
  rfl

theorem field_maxInputBytes (unstated : stated.maxInputBytes = none) (value : UInt64) :
    stated.field FieldName.maxInputBytes (Value.integer value.toNat).node =
      some (.ok { stated with maxInputBytes := some (some value) }) := by
  have read : (Value.integer value.toNat).node.readOptional Node.readUnsigned =
      (Value.integer value.toNat).node.readUnsigned.map some := rfl
  rw [field, if_neg (by decide), if_neg (by decide), if_pos rfl, unstated, read,
    Node.readUnsigned_integer]
  rfl

end StatedSettings

namespace PartialSettings

theorem ofNode_toJson (stated : PartialSettings) :
    FilterSettings.ofNode stated.toJson.node = .ok stated.settings := by
  have read :=
    calc Members.fold StatedSettings.field {} (Value.memberNodes (statedFields
          ((FieldName.classifier, stated.classifier.map StatedClassifier.toJson) ::
            stated.limits (fun limit => .integer limit))))
      _ = Members.fold StatedSettings.field
            ⟨stated.classifier.map StatedClassifier.settings, none, none⟩ _ :=
        Members.fold_statedFields _ (fun absent => by rw [absent]; rfl) (fun value present => by
          rw [present]
          exact StatedSettings.field_classifier _ rfl value)
      _ = Members.fold StatedSettings.field ⟨stated.classifier.map StatedClassifier.settings,
            stated.patternSizeLimit, none⟩ _ :=
        Members.fold_statedFields _ (fun absent => by rw [absent]) (fun value present => by
          rw [present]
          exact StatedSettings.field_patternSizeLimit _ rfl value)
      _ = Members.fold StatedSettings.field ⟨stated.classifier.map StatedClassifier.settings,
            stated.patternSizeLimit, stated.maxInputBytes.map some⟩ _ :=
        Members.fold_statedFields [] (fun absent => by rw [absent]; rfl) (fun value present => by
          rw [present]
          exact StatedSettings.field_maxInputBytes _ rfl value)
      _ = .ok ⟨stated.classifier.map StatedClassifier.settings, stated.patternSizeLimit,
            stated.maxInputBytes.map some⟩ := rfl
  rw [toJson, Value.node, FilterSettings.ofNode, read]
  exact congrArg Except.ok stated.settings_ofStated

theorem decode_toJson (stated : PartialSettings) :
    Json.Document.decode FilterSettings.ofNode stated.toJson.render = .ok stated.settings := by
  rw [Json.Document.decode_render, ofNode_toJson]

end PartialSettings

end ConditionalText
