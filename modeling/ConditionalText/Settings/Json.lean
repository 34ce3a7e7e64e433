import ConditionalText.Json.Reader
import ConditionalText.Json.Value
import ConditionalText.Settings.Stated

/-!
Settings in JSON. Settings are objects whose members may come in any order, or arrays of the fields
in their usual order; a known field that is stated twice is an error, an unknown one is passed over.
-/

namespace ConditionalText

open Json

def stateOnce {α : Type} (stated : Option α) (value : Except JsonFault α) :
    Except JsonFault (Option α) :=
  if stated.isSome then .error .content else value.map some

namespace StatedClassifier

def field (stated : StatedClassifier) (name : Text) (value : Node) :
    Option (Except JsonFault StatedClassifier) :=
  if name = FieldName.tokenFileEndpoint then
    some ((stateOnce stated.tokenFileEndpoint value.readText).map
      (fun stated' => { stated with tokenFileEndpoint := stated' }))
  else if name = FieldName.tokenParam then
    some ((stateOnce stated.tokenParam value.readText).map
      (fun stated' => { stated with tokenParam := stated' }))
  else if name = FieldName.appFileEndpoint then
    some ((stateOnce stated.appFileEndpoint value.readText).map
      (fun stated' => { stated with appFileEndpoint := stated' }))
  else if name = FieldName.appAgentMarker then
    some ((stateOnce stated.appAgentMarker value.readText).map
      (fun stated' => { stated with appAgentMarker := stated' }))
  else none

end StatedClassifier

namespace ClassifierSettings

def ofItems (items : Items) : Except JsonFault ClassifierSettings := do
  let default : ClassifierSettings := {}
  let (tokenFileEndpoint, items) ← items.take Node.readText (.ok default.tokenFileEndpoint)
  let (tokenParam, items) ← items.take Node.readText (.ok default.tokenParam)
  let (appFileEndpoint, items) ← items.take Node.readText (.ok default.appFileEndpoint)
  let (appAgentMarker, items) ← items.take Node.readText (.ok default.appAgentMarker)
  items.finish
  pure ⟨tokenFileEndpoint, tokenParam, appFileEndpoint, appAgentMarker⟩

def ofNode : Node → Except JsonFault ClassifierSettings
  | .array items => ofItems items
  | .object members => (members.fold StatedClassifier.field {}).map StatedClassifier.settings
  | node => .error node.mismatch

def toJson (settings : ClassifierSettings) : Value :=
  .object [
    (FieldName.tokenFileEndpoint, .string settings.tokenFileEndpoint),
    (FieldName.tokenParam, .string settings.tokenParam),
    (FieldName.appFileEndpoint, .string settings.appFileEndpoint),
    (FieldName.appAgentMarker, .string settings.appAgentMarker)]

end ClassifierSettings

namespace StatedSettings

def field (stated : StatedSettings) (name : Text) (value : Node) :
    Option (Except JsonFault StatedSettings) :=
  if name = FieldName.classifier then
    some ((stateOnce stated.classifier (ClassifierSettings.ofNode value)).map
      (fun stated' => { stated with classifier := stated' }))
  else if name = FieldName.patternSizeLimit then
    some ((stateOnce stated.patternSizeLimit value.readUnsigned).map
      (fun stated' => { stated with patternSizeLimit := stated' }))
  else if name = FieldName.maxInputBytes then
    some ((stateOnce stated.maxInputBytes (value.readOptional Node.readUnsigned)).map
      (fun stated' => { stated with maxInputBytes := stated' }))
  else none

end StatedSettings

namespace FilterSettings

def ofItems (items : Items) : Except JsonFault FilterSettings := do
  let default : FilterSettings := {}
  let (classifier, items) ← items.take ClassifierSettings.ofNode (.ok default.classifier)
  let (patternSizeLimit, items) ← items.take Node.readUnsigned (.ok default.patternSizeLimit)
  let (maxInputBytes, items) ←
    items.take (Node.readOptional Node.readUnsigned) (.ok default.maxInputBytes)
  items.finish
  pure ⟨classifier, patternSizeLimit, maxInputBytes⟩

def ofNode : Node → Except JsonFault FilterSettings
  | .array items => ofItems items
  | .object members => (members.fold StatedSettings.field {}).map StatedSettings.settings
  | node => .error node.mismatch

/-- A limit that is not set is not written. -/
def toJson (settings : FilterSettings) : Value :=
  .object ([
    (FieldName.classifier, settings.classifier.toJson),
    (FieldName.patternSizeLimit, .integer settings.patternSizeLimit.toNat)] ++
    (settings.maxInputBytes.map
      (fun limit => (FieldName.maxInputBytes, .integer limit.toNat))).toList)

end FilterSettings

end ConditionalText
