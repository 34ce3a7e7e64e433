import ConditionalText.Proofs.PartialSettings
import ConditionalText.Proofs.TomlText
import ConditionalText.Settings.Layers

/-!
The TOML text of settings of which only some fields are stated. It is read as the same settings as
their JSON text.
-/

namespace ConditionalText

open Toml (Entries IsBareKey Node Scalar ScalarEntries SimpleDocument)

namespace StatedClassifier

def tomlEntries (stated : StatedClassifier) : ScalarEntries :=
  statedFields (stated.fields .string)

end StatedClassifier

namespace PartialSettings

def tomlDocument (stated : PartialSettings) : SimpleDocument where
  entries := statedFields (stated.limits .integer)
  table := stated.classifier.map (fun classifier => (FieldName.classifier, classifier.tomlEntries))

/-- The limits come first, since what follows the header of the classifier belongs to it. -/
def toToml (stated : PartialSettings) : Text :=
  stated.tomlDocument.render

end PartialSettings

/-! Writing -/

theorem Toml.isBareKey_of_all {key : Text} (empty : key.isEmpty = false)
    (all : key.all Toml.isBareKeyChar = true) : IsBareKey key := by
  constructor
  · rintro rfl
    cases empty
  · exact List.all_eq_true.mp all

theorem Toml.ScalarEntries.writable_statedFields {fields : List (Text × Option Scalar)}
    (bare : ∀ name ∈ fields.map Prod.fst, IsBareKey name)
    (fits : ∀ field ∈ fields, ∀ scalar ∈ field.2, scalar.Fits)
    (distinct : (fields.map Prod.fst).Nodup) :
    ScalarEntries.Writable (statedFields fields) where
  bare := by
    intro entry member
    exact bare entry.1 (List.mem_map_of_mem (mem_statedFields.mp member))
  fits := by
    intro entry member
    exact fits _ (mem_statedFields.mp member) entry.2 rfl
  distinct := names_statedFields.nodup distinct

theorem StatedClassifier.writable_tomlEntries (stated : StatedClassifier) :
    stated.tomlEntries.Writable := by
  apply ScalarEntries.writable_statedFields
  · rw [names_fields]
    simp only [List.forall_mem_cons]
    refine ⟨?_, ?_, ?_, ?_, by simp⟩ <;> exact Toml.isBareKey_of_all (by decide) (by decide)
  · intro field member scalar written
    simp only [fields, List.mem_cons, List.not_mem_nil, or_false] at member
    rcases member with rfl | rfl | rfl | rfl <;>
      (obtain ⟨text, _, rfl⟩ := Option.map_eq_some_iff.mp written; trivial)
  · exact stated.distinct_fields _

namespace PartialSettings

variable {stated : PartialSettings}

theorem writable_limits
    (limitFits : ∀ limit ∈ stated.patternSizeLimit, limit.toNat < 2 ^ 63)
    (boundFits : ∀ bound ∈ stated.maxInputBytes, bound.toNat < 2 ^ 63) :
    ScalarEntries.Writable (statedFields (stated.limits .integer)) := by
  apply ScalarEntries.writable_statedFields
  · rw [names_limits]
    simp only [List.forall_mem_cons]
    refine ⟨?_, ?_, by simp⟩ <;> exact Toml.isBareKey_of_all (by decide) (by decide)
  · intro field member scalar written
    simp only [limits, List.mem_cons, List.not_mem_nil, or_false] at member
    cases member with
    | inl same =>
        rw [same] at written
        obtain ⟨limit, held, rfl⟩ := Option.map_eq_some_iff.mp written
        exact limitFits limit held
    | inr same =>
        rw [same] at written
        obtain ⟨bound, held, rfl⟩ := Option.map_eq_some_iff.mp written
        exact boundFits bound held
  · rw [names_limits]
    decide

theorem writable_tomlDocument
    (limitFits : ∀ limit ∈ stated.patternSizeLimit, limit.toNat < 2 ^ 63)
    (boundFits : ∀ bound ∈ stated.maxInputBytes, bound.toNat < 2 ^ 63) :
    stated.tomlDocument.Writable where
  entries := writable_limits limitFits boundFits
  tableBare := by
    intro table member
    obtain ⟨classifier, _, rfl⟩ := Option.map_eq_some_iff.mp member
    have bare : IsBareKey FieldName.classifier := Toml.isBareKey_of_all (by decide) (by decide)
    exact bare
  tableEntries := by
    intro table member
    obtain ⟨classifier, _, rfl⟩ := Option.map_eq_some_iff.mp member
    exact classifier.writable_tomlEntries
  tableNew := by
    intro table member
    obtain ⟨classifier, _, rfl⟩ := Option.map_eq_some_iff.mp member
    intro listed
    have limited := names_statedFields.subset listed
    rw [names_limits] at limited
    have other : FieldName.classifier ∉ [FieldName.patternSizeLimit, FieldName.maxInputBytes] := by
      decide
    exact other limited

end PartialSettings

/-! Reading -/

theorem Toml.Node.readUnsigned?_integer (value : UInt64) :
    (Node.integer value.toNat).readUnsigned? = some value := by
  have natural : (0 : Int) ≤ value.toNat := Int.natCast_nonneg _
  rw [readUnsigned?, if_pos natural, Int.toNat_natCast, UInt64.ofNat_toNat]

theorem statedEntry_statedFields {α : Type} {read : Node → Option α} {write : α → Node}
    {fields : List (Text × Option Node)} {name : Text} {stated : Option α}
    (distinct : (fields.map Prod.fst).Nodup) (member : (name, stated.map write) ∈ fields)
    (readable : ∀ value, read (write value) = some value) :
    statedEntry read (statedFields fields) name = some stated := by
  unfold statedEntry
  rw [lookup_statedFields distinct member]
  cases stated with
  | none => rfl
  | some value => simp [readable]

theorem StatedClassifier.ofEntries?_tomlEntries (stated : StatedClassifier) :
    ofEntries? stated.tomlEntries.nodes = some stated := by
  have nodes : stated.tomlEntries.nodes = statedFields (stated.fields Node.string) := by
    have mapped := map_statedFields Scalar.node (stated.fields .string)
    rw [ScalarEntries.nodes, tomlEntries, mapped]
    simp [fields, Function.comp_def, Scalar.node]
  have read : ∀ name (text : Option Text), (name, text.map Node.string) ∈ stated.fields Node.string →
      statedEntry Node.readText? (statedFields (stated.fields Node.string)) name = some text :=
    fun name text member =>
      statedEntry_statedFields (stated.distinct_fields _) member (fun _ => rfl)
  rw [nodes, ofEntries?, read _ stated.tokenFileEndpoint (by simp [fields]),
    read _ stated.tokenParam (by simp [fields]), read _ stated.appFileEndpoint (by simp [fields]),
    read _ stated.appAgentMarker (by simp [fields])]
  rfl

namespace PartialSettings

def tomlFields (stated : PartialSettings) : List (Text × Option Node) :=
  stated.limits (fun limit => .integer limit) ++
    [(FieldName.classifier,
      stated.classifier.map (fun classifier => .table .explicit classifier.tomlEntries.nodes))]

theorem nodes_tomlDocument (stated : PartialSettings) :
    stated.tomlDocument.nodes = statedFields stated.tomlFields := by
  have limited : ScalarEntries.nodes (statedFields (stated.limits .integer)) =
      statedFields (stated.limits (fun limit => .integer limit)) := by
    have mapped := map_statedFields Scalar.node (stated.limits .integer)
    rw [ScalarEntries.nodes, mapped]
    simp [limits, Function.comp_def, Scalar.node]
  rw [SimpleDocument.nodes, tomlDocument, limited, tomlFields, statedFields_append]
  cases stated.classifier with
  | none => rfl
  | some classifier => rfl

theorem distinct_tomlFields (stated : PartialSettings) :
    (stated.tomlFields.map Prod.fst).Nodup := by
  have names : stated.tomlFields.map Prod.fst =
      [FieldName.patternSizeLimit, FieldName.maxInputBytes, FieldName.classifier] := rfl
  rw [names]
  decide

theorem ofToml?_tomlDocument (stated : PartialSettings) :
    FilterSettings.ofToml? stated.tomlDocument.nodes = some stated.settings := by
  have distinct := stated.distinct_tomlFields
  have classifier : statedEntry StatedClassifier.ofToml? (statedFields stated.tomlFields)
      FieldName.classifier = some stated.classifier :=
    statedEntry_statedFields distinct (List.mem_append_right _ (List.mem_singleton_self _))
      StatedClassifier.ofEntries?_tomlEntries
  have limit : statedEntry Node.readUnsigned? (statedFields stated.tomlFields)
      FieldName.patternSizeLimit = some stated.patternSizeLimit :=
    statedEntry_statedFields distinct (List.mem_cons_self ..) Toml.Node.readUnsigned?_integer
  have bound : statedEntry Node.readUnsigned? (statedFields stated.tomlFields)
      FieldName.maxInputBytes = some stated.maxInputBytes :=
    statedEntry_statedFields distinct (List.mem_cons_of_mem _ (List.mem_cons_self ..))
      Toml.Node.readUnsigned?_integer
  rw [nodes_tomlDocument, FilterSettings.ofToml?, classifier, limit, bound]
  exact congrArg some stated.settings_ofStated

theorem parse_toToml {stated : PartialSettings}
    (limitFits : ∀ limit ∈ stated.patternSizeLimit, limit.toNat < 2 ^ 63)
    (boundFits : ∀ bound ∈ stated.maxInputBytes, bound.toNat < 2 ^ 63) :
    FilterSettings.parse .toml stated.toToml = .ok stated.settings := by
  have read := SimpleDocument.ofText?_render (writable_tomlDocument limitFits boundFits)
  rw [FilterSettings.parse, toToml, read, Option.bind_some, ofToml?_tomlDocument]

/-- Whatever is stated means the same in both formats, as long as TOML has integers for the limits:
what is stated holds, and everything else is as by default. -/
theorem parse_either_format (stated : PartialSettings)
    (limitFits : ∀ limit ∈ stated.patternSizeLimit, limit.toNat < 2 ^ 63)
    (boundFits : ∀ bound ∈ stated.maxInputBytes, bound.toNat < 2 ^ 63) :
    FilterSettings.parse .json stated.toJson.render = .ok stated.settings ∧
      FilterSettings.parse .toml stated.toToml = .ok stated.settings := by
  have decoded := decode_toJson stated
  refine ⟨?_, parse_toToml limitFits boundFits⟩
  rw [FilterSettings.parse, decoded]

theorem parse_either_format_largest_limit :
    FilterSettings.parse .json
        (toJson ⟨some { tokenParam := some ['"', '\x7f'] }, some 9223372036854775807, none⟩).render =
      .ok {
        classifier := { tokenParam := ['"', '\x7f'] }
        patternSizeLimit := 9223372036854775807 } ∧
    FilterSettings.parse .toml ("uaPatternSizeLimit = 9223372036854775807\n" ++
        "[classifier]\ntokenParam = \"\\\"\\u007f\"\n").toList =
      .ok {
        classifier := { tokenParam := ['"', '\x7f'] }
        patternSizeLimit := 9223372036854775807 } := by
  have written :
      toToml ⟨some { tokenParam := some ['"', '\x7f'] }, some 9223372036854775807, none⟩ =
        ("uaPatternSizeLimit = 9223372036854775807\n" ++
          "[classifier]\ntokenParam = \"\\\"\\u007f\"\n").toList := by decide
  rw [← written]
  apply parse_either_format
  · intro limit stated
    cases stated
    decide
  · intro bound stated
    cases stated

end PartialSettings

end ConditionalText
