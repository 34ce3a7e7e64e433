import ConditionalText.Proofs.SettingsFormats

/-!
What a TOML tree states about settings: the entries that have the key of a field, or the items that
stand at its place. Settings that can be read from a tree are what the tree states, with the defaults
in all other fields.
-/

namespace ConditionalText

open Toml (Entries Node)

namespace Toml.Node

def field? (key : Text) (place : Nat) : Node → Option Node
  | .table _ entries => entries.lookup key
  | .array items => items[place]?
  | .tables latestFirst => latestFirst.reverse[place]?
  | _ => none

end Toml.Node

section

variable {α : Type} {read : Node → Option α}

theorem statedEntry_eq_mapM (entries : Entries) (key : Text) :
    statedEntry read entries key = (entries.lookup key).mapM read := by
  unfold statedEntry
  cases entries.lookup key with
  | none => rfl
  | some value => rfl

theorem statedItem_eq_mapM (items : List Node) (place : Nat) :
    statedItem read items place = items[place]?.mapM read := by
  unfold statedItem
  cases items[place]? with
  | none => rfl
  | some value => rfl

theorem eq_bind_of_mapM {held : Option Node} {stated : Option α}
    (readable : held.mapM read = some stated) : stated = held.bind read := by
  cases held with
  | none =>
      cases readable
      rfl
  | some value =>
      obtain ⟨content, present, rfl⟩ := Option.map_eq_some_iff.mp readable
      exact present.symm

end

namespace StatedClassifier

def inToml (node : Node) : StatedClassifier where
  tokenFileEndpoint := (node.field? FieldName.tokenFileEndpoint 0).bind Node.readText?
  tokenParam := (node.field? FieldName.tokenParam 1).bind Node.readText?
  appFileEndpoint := (node.field? FieldName.appFileEndpoint 2).bind Node.readText?
  appAgentMarker := (node.field? FieldName.appAgentMarker 3).bind Node.readText?

def ofFields? (node : Node) : Option StatedClassifier := do
  let tokenFileEndpoint ← (node.field? FieldName.tokenFileEndpoint 0).mapM Node.readText?
  let tokenParam ← (node.field? FieldName.tokenParam 1).mapM Node.readText?
  let appFileEndpoint ← (node.field? FieldName.appFileEndpoint 2).mapM Node.readText?
  let appAgentMarker ← (node.field? FieldName.appAgentMarker 3).mapM Node.readText?
  pure ⟨tokenFileEndpoint, tokenParam, appFileEndpoint, appAgentMarker⟩

theorem eq_inToml_of_ofFields? {node : Node} {stated : StatedClassifier}
    (read : ofFields? node = some stated) : stated = inToml node := by
  obtain ⟨endpoint, statesEndpoint, read⟩ := Option.bind_eq_some_iff.mp read
  obtain ⟨param, statesParam, read⟩ := Option.bind_eq_some_iff.mp read
  obtain ⟨appEndpoint, statesAppEndpoint, read⟩ := Option.bind_eq_some_iff.mp read
  obtain ⟨appMarker, statesAppMarker, same⟩ := Option.bind_eq_some_iff.mp read
  cases same
  rw [inToml, eq_bind_of_mapM statesEndpoint, eq_bind_of_mapM statesParam,
    eq_bind_of_mapM statesAppEndpoint, eq_bind_of_mapM statesAppMarker]

theorem ofItems?_eq_ofFields? {node : Node} {items : List Node}
    (placed : ∀ name place, node.field? name place = items[place]?) :
    ofItems? items = ofFields? node := by
  unfold ofItems? ofFields?
  simp only [statedItem_eq_mapM, placed]

theorem ofFields?_of_ofToml? {node : Node} {stated : StatedClassifier}
    (read : ofToml? node = some stated) : ofFields? node = some stated := by
  cases node with
  | table kind entries =>
      rw [← read, ofToml?, ofEntries?, ofFields?]
      simp only [statedEntry_eq_mapM]
      rfl
  | array items => rwa [← ofItems?_eq_ofFields? (fun _ _ => rfl)]
  | tables latestFirst => rwa [← ofItems?_eq_ofFields? (fun _ _ => rfl)]
  | datetime => exact read
  | string | integer | float | boolean => cases read

theorem eq_inToml_of_ofToml? {node : Node} {stated : StatedClassifier}
    (read : ofToml? node = some stated) : stated = inToml node :=
  eq_inToml_of_ofFields? (ofFields?_of_ofToml? read)

end StatedClassifier

namespace PartialSettings

def inToml (entries : Entries) : PartialSettings where
  classifier := (entries.lookup FieldName.classifier).map StatedClassifier.inToml
  patternSizeLimit := (entries.lookup FieldName.patternSizeLimit).bind Node.readUnsigned?
  maxInputBytes := (entries.lookup FieldName.maxInputBytes).bind Node.readUnsigned?

/-- Settings that can be read are what the document states, with the defaults for the rest. -/
theorem settings_of_ofToml? {entries : Entries} {settings : FilterSettings}
    (read : FilterSettings.ofToml? entries = some settings) :
    settings = (inToml entries).settings := by
  obtain ⟨classifier, statesClassifier, read⟩ := Option.bind_eq_some_iff.mp read
  obtain ⟨limit, statesLimit, read⟩ := Option.bind_eq_some_iff.mp read
  obtain ⟨bound, statesBound, same⟩ := Option.bind_eq_some_iff.mp read
  cases same
  rw [statedEntry_eq_mapM] at statesClassifier statesLimit statesBound
  have same : classifier = (inToml entries).classifier := by
    rw [eq_bind_of_mapM statesClassifier, inToml]
    cases held : entries.lookup FieldName.classifier with
    | none => rfl
    | some node =>
        rw [held] at statesClassifier
        obtain ⟨stated, present, _⟩ := Option.map_eq_some_iff.mp statesClassifier
        rw [Option.bind_some, present, StatedClassifier.eq_inToml_of_ofToml? present]
        rfl
  rw [same, eq_bind_of_mapM statesLimit, eq_bind_of_mapM statesBound]
  exact settings_ofStated (inToml entries)

end PartialSettings

end ConditionalText
