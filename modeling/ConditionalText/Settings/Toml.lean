import ConditionalText.Settings.Stated
import ConditionalText.Toml.Reader

/-!
Settings in TOML. Unknown fields are passed over. Where a table of settings is wanted, an array of
the fields in their usual order will do, and a date, which counts as a table without known fields.
-/

namespace ConditionalText

open Toml

def Toml.Node.readText? : Node → Option Text
  | .string value => some value
  | _ => none

def Toml.Node.readUnsigned? : Node → Option UInt64
  | .integer value => if 0 ≤ value then some (UInt64.ofNat value.toNat) else none
  | _ => none

/-- The value of a field: nothing when it is not stated, a failure when it cannot be read. -/
def statedEntry {α : Type} (read : Node → Option α) (entries : Entries) (key : Text) :
    Option (Option α) :=
  match entries.lookup key with
  | none => some none
  | some node => (read node).map some

def statedItem {α : Type} (read : Node → Option α) (items : List Node) (place : Nat) :
    Option (Option α) :=
  match items[place]? with
  | none => some none
  | some node => (read node).map some

namespace StatedClassifier

def ofEntries? (entries : Entries) : Option StatedClassifier := do
  let tokenFileEndpoint ← statedEntry Node.readText? entries FieldName.tokenFileEndpoint
  let tokenParam ← statedEntry Node.readText? entries FieldName.tokenParam
  let appFileEndpoint ← statedEntry Node.readText? entries FieldName.appFileEndpoint
  let appAgentMarker ← statedEntry Node.readText? entries FieldName.appAgentMarker
  pure ⟨tokenFileEndpoint, tokenParam, appFileEndpoint, appAgentMarker⟩

def ofItems? (items : List Node) : Option StatedClassifier := do
  let tokenFileEndpoint ← statedItem Node.readText? items 0
  let tokenParam ← statedItem Node.readText? items 1
  let appFileEndpoint ← statedItem Node.readText? items 2
  let appAgentMarker ← statedItem Node.readText? items 3
  pure ⟨tokenFileEndpoint, tokenParam, appFileEndpoint, appAgentMarker⟩

def ofToml? : Node → Option StatedClassifier
  | .table _ entries => ofEntries? entries
  | .array items => ofItems? items
  | .tables latestFirst => ofItems? latestFirst.reverse
  | .datetime => some {}
  | _ => none

end StatedClassifier

namespace FilterSettings

def ofToml? (entries : Entries) : Option FilterSettings := do
  let classifier ← statedEntry StatedClassifier.ofToml? entries FieldName.classifier
  let patternSizeLimit ← statedEntry Node.readUnsigned? entries FieldName.patternSizeLimit
  let maxInputBytes ← statedEntry Node.readUnsigned? entries FieldName.maxInputBytes
  let stated : StatedSettings :=
    ⟨classifier.map StatedClassifier.settings, patternSizeLimit, maxInputBytes.map some⟩
  pure stated.settings

end FilterSettings

end ConditionalText
