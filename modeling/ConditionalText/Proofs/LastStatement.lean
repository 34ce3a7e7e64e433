import ConditionalText.Proofs.Layering
import ConditionalText.Proofs.StatedEntries
import ConditionalText.Proofs.StatedMembers

/-!
Whose statement about a setting counts when layers are loaded. Layers are laid over each other as
settings in which it cannot be seen any more what was stated, so to state a default is to state
nothing: of all statements of a setting the last counts that states something else than the default.
-/

namespace ConditionalText

namespace FilterSettings

variable {text : Text} {settings : FilterSettings}

theorem parse_json_eq_ok_iff :
    parse .json text = .ok settings ↔
      ofNode (Json.Document.ofText text).root = .ok settings ∧
        (Json.Document.ofText text).complete = true := by
  rw [← Json.Document.decode_eq_ok_iff, parse]
  cases Json.Document.decode ofNode text with
  | error fault => simp
  | ok found => simp

theorem parse_toml_eq_ok_iff :
    parse .toml text = .ok settings ↔
      ∃ entries, Toml.ofText? text = some entries ∧ ofToml? entries = some settings := by
  rw [← Option.bind_eq_some_iff, parse]
  cases (Toml.ofText? text).bind ofToml? with
  | none => simp
  | some found => simp

end FilterSettings

namespace PartialSettings

/-- What a text states about settings. -/
def inText (format : SettingsFormat) (text : Text) : PartialSettings :=
  match format with
  | .json => inJson (Json.Document.ofText text).root
  | .toml => ((Toml.ofText? text).map inToml).getD {}

/-- Whatever its format, a text of settings is read as what it states. -/
theorem settings_of_parse {format : SettingsFormat} {text : Text} {settings : FilterSettings}
    (read : FilterSettings.parse format text = .ok settings) :
    settings = (inText format text).settings := by
  cases format with
  | json => exact settings_of_ofNode (FilterSettings.parse_json_eq_ok_iff.mp read).1
  | toml =>
      obtain ⟨entries, parsed, taken⟩ := FilterSettings.parse_toml_eq_ok_iff.mp read
      rw [inText, parsed, settings_of_ofToml? taken]
      rfl

theorem inText_toJson (stated : PartialSettings) :
    inText .json stated.toJson.render = stated := by
  rw [inText, Json.Document.ofText_render, inJson_toJson]

/-- What the file at a path states, if it holds settings. -/
def inFile? (files : FileSystem) (path : Text) : Option PartialSettings := do
  let entry ← files.lookup? path
  let text ← entry.read.toOption
  let _ ← (FilterSettings.parse (.ofPath path) text).toOption
  pure (inText (.ofPath path) text)

theorem inFile?_eq_some_iff {files : FileSystem} {path : Text} {stated : PartialSettings} :
    inFile? files path = some stated ↔
      ∃ text settings, files.lookup? path = some (.file (List.utf8Encode text)) ∧
        FilterSettings.parse (.ofPath path) text = .ok settings ∧
        stated = inText (.ofPath path) text := by
  constructor
  · intro found
    obtain ⟨entry, looked, found⟩ := Option.bind_eq_some_iff.mp found
    obtain ⟨text, decoded, found⟩ := Option.bind_eq_some_iff.mp found
    obtain ⟨settings, parsed, same⟩ := Option.bind_eq_some_iff.mp found
    cases same
    rw [toOption_eq_some_iff, FileEntry.read_eq_ok_iff] at decoded
    exact ⟨text, settings, by rw [looked, decoded], toOption_eq_some_iff.mp parsed, rfl⟩
  · intro held
    obtain ⟨text, settings, looked, read, rfl⟩ := held
    have decoded := toOption_eq_some_iff.mpr (FileEntry.read_utf8Encode text)
    simp [inFile?, looked, decoded, toOption_eq_some_iff.mpr read]

theorem inFile?_of_toJson {files : FileSystem} {path : Text} {stated : PartialSettings}
    (looked : files.lookup? path = some (.file (List.utf8Encode stated.toJson.render)))
    (format : SettingsFormat.ofPath path = .json) : inFile? files path = some stated := by
  refine inFile?_eq_some_iff.mpr ⟨_, stated.settings, looked, ?_, ?_⟩
  · rw [format, FilterSettings.parse, decode_toJson]
  · rw [format, inText_toJson]

theorem stored?_eq (files : FileSystem) (path : Text) :
    FilterSettings.stored? files path = (inFile? files path).map settings := by
  apply Option.ext
  intro loaded
  rw [FilterSettings.stored?_eq_some_iff, Option.map_eq_some_iff]
  constructor
  · intro stored
    obtain ⟨text, looked, read⟩ := stored
    exact ⟨_, inFile?_eq_some_iff.mpr ⟨text, loaded, looked, read, rfl⟩,
      (settings_of_parse read).symm⟩
  · intro stated
    obtain ⟨stated, found, same⟩ := stated
    obtain ⟨text, settings, looked, read, rfl⟩ := inFile?_eq_some_iff.mp found
    rw [← settings_of_parse read] at same
    exact ⟨text, looked, same ▸ read⟩

end PartialSettings

namespace SettingsLayer

variable {α : Type} (files : FileSystem)

def stated? (setting : PartialSettings → Option α) (layer : SettingsLayer) : Option α :=
  (PartialSettings.inFile? files layer.path).bind setting

theorem stated?_of_toJson {files : FileSystem} {setting : PartialSettings → Option α}
    {layer : SettingsLayer} (stated : PartialSettings)
    (looked : files.lookup? layer.path = some (.file (List.utf8Encode stated.toJson.render)))
    (format : SettingsFormat.ofPath layer.path = .json) :
    layer.stated? files setting = setting stated := by
  rw [stated?, PartialSettings.inFile?_of_toJson looked format, Option.bind_some]

/-- Of the statements that count, the last one settles the value. -/
def LastCounts (counts : α → Prop) (setting : PartialSettings → Option α)
    (layers : List SettingsLayer) (value : α) : Prop :=
  ∀ before layer after stated, layers = before ++ layer :: after →
    layer.stated? files setting = some stated → counts stated →
    (∀ later ∈ after, ∀ other, later.stated? files setting = some other → ¬ counts other) →
    value = stated

/-- The last statement of something else than the default settles the value, and without one the
value is the default. -/
structure LastChangeCounts (default : α) (setting : PartialSettings → Option α)
    (layers : List SettingsLayer) (value : α) : Prop where
  last : LastCounts files (fun stated => stated ≠ default) setting layers value
  unchanged : (∀ layer ∈ layers, ∀ stated, layer.stated? files setting = some stated →
    stated = default) → value = default

/-- How a setting is kept in a field: the layers' fields are merged by the field's default, which
stands for what is not stated. -/
structure KeptIn [DecidableEq α] (setting : PartialSettings → Option α)
    (field : FilterSettings → α) : Prop where
  merged : ∀ base overlay,
    field (base.merge overlay) = overlayField (field {}) (field base) (field overlay)
  given : ∀ stated, field (PartialSettings.settings stated) = (setting stated).getD (field {})

theorem KeptIn.of_classifier [DecidableEq α] {part : StatedClassifier → Option α}
    {field : FilterSettings → α} (absent : part {} = none)
    (merged : ∀ base overlay,
      field (base.merge overlay) = overlayField (field {}) (field base) (field overlay))
    (given : ∀ stated, field (PartialSettings.settings stated) =
      (part (stated.classifier.getD {})).getD (field {})) :
    KeptIn (fun stated => stated.classifier.bind part) field where
  merged := merged
  given := by
    intro stated
    rw [given]
    cases stated.classifier with
    | none => rw [Option.getD_none, absent, Option.bind_none]
    | some classifier => rfl

namespace KeptIn

variable [Wording] {files} [DecidableEq α] {setting : PartialSettings → Option α}
  {field : FilterSettings → α}

theorem overlay_stated (kept : KeptIn setting field) {settings : FilterSettings}
    {layer : SettingsLayer} {stated : α} (states : layer.stated? files setting = some stated)
    (changed : stated ≠ field {}) : field (overlay files settings layer).value = stated := by
  obtain ⟨found, inFile, states⟩ := Option.bind_eq_some_iff.mp states
  rw [overlay_value, PartialSettings.stored?_eq, inFile, Option.map_some, kept.merged, kept.given,
    states, Option.getD_some, overlayField_of_ne changed]

theorem overlay_unchanged (kept : KeptIn setting field) {settings : FilterSettings}
    {layer : SettingsLayer}
    (unchanged : ∀ stated, layer.stated? files setting = some stated → stated = field {}) :
    field (overlay files settings layer).value = field settings := by
  rw [overlay_value, PartialSettings.stored?_eq]
  cases inFile : PartialSettings.inFile? files layer.path with
  | none => rfl
  | some found =>
      have nothing : (setting found).getD (field {}) = field {} := by
        cases states : setting found with
        | none => rfl
        | some stated => exact unchanged stated (by rw [stated?, inFile, Option.bind_some, states])
      rw [Option.map_some, kept.merged, kept.given, nothing, overlayField_default]

theorem foldl_unchanged (kept : KeptIn setting field) {layers : List SettingsLayer}
    (unchanged : ∀ layer ∈ layers, ∀ stated, layer.stated? files setting = some stated →
      stated = field {}) (settings : FilterSettings) :
    field (layers.foldl (fun settings layer => (overlay files settings layer).value) settings) =
      field settings := by
  induction layers generalizing settings with
  | nil => rfl
  | cons layer layers ih =>
      rw [List.foldl_cons, ih (fun later member => unchanged later (List.mem_cons_of_mem _ member)),
        kept.overlay_unchanged (unchanged layer List.mem_cons_self)]

theorem lastChangeCounts (kept : KeptIn setting field) (layers : List SettingsLayer) :
    LastChangeCounts files (field {}) setting layers (field (loadAll files layers).value) := by
  rw [loadAll, Reported.foldlM_value]
  constructor
  · intro before layer after stated split states changed later
    have silent : ∀ layer ∈ after, ∀ other, layer.stated? files setting = some other →
        other = field {} :=
      fun layer member other others => not_not.mp (later layer member other others)
    rw [split, List.foldl_append, List.foldl_cons, kept.foldl_unchanged silent,
      kept.overlay_stated states changed]
  · intro unchanged
    exact kept.foldl_unchanged unchanged {}

end KeptIn

/-! The settings, and the fields they are kept in -/

theorem keptIn_tokenFileEndpoint :
    KeptIn (fun stated => stated.classifier.bind (·.tokenFileEndpoint))
      (·.classifier.tokenFileEndpoint) :=
  .of_classifier rfl (fun _ _ => rfl) (fun _ => rfl)

theorem keptIn_tokenParam :
    KeptIn (fun stated => stated.classifier.bind (·.tokenParam)) (·.classifier.tokenParam) :=
  .of_classifier rfl (fun _ _ => rfl) (fun _ => rfl)

theorem keptIn_appFileEndpoint :
    KeptIn (fun stated => stated.classifier.bind (·.appFileEndpoint))
      (·.classifier.appFileEndpoint) :=
  .of_classifier rfl (fun _ _ => rfl) (fun _ => rfl)

theorem keptIn_appAgentMarker :
    KeptIn (fun stated => stated.classifier.bind (·.appAgentMarker))
      (·.classifier.appAgentMarker) :=
  .of_classifier rfl (fun _ _ => rfl) (fun _ => rfl)

theorem keptIn_patternSizeLimit : KeptIn (·.patternSizeLimit) (·.patternSizeLimit) where
  merged _ _ := rfl
  given _ := rfl

theorem keptIn_maxInputBytes :
    KeptIn (fun stated => stated.maxInputBytes.map some) (·.maxInputBytes) where
  merged _ _ := rfl
  given := by
    intro stated
    change stated.maxInputBytes = (stated.maxInputBytes.map some).getD none
    cases stated.maxInputBytes with
    | none => rfl
    | some bound => rfl

/-- When layers are loaded, a setting has the value of its last statement that differs from the
default, and the default where there is no such statement. A number that bounds the input differs
from the default in any case, so there the last statement counts. What a layer states is what stands
in its file, if that is a text of settings in the format of its name. -/
theorem last_change_counts [Wording] (files : FileSystem) (layers : List SettingsLayer) :
    let default : FilterSettings := {}
    let loaded := (loadAll files layers).value
    (∀ path stated, PartialSettings.inFile? files path = some stated ↔
      ∃ text settings, files.lookup? path = some (.file (List.utf8Encode text)) ∧
        FilterSettings.parse (.ofPath path) text = .ok settings ∧
        stated = PartialSettings.inText (.ofPath path) text) ∧
    LastChangeCounts files default.classifier.tokenFileEndpoint
      (fun stated => stated.classifier.bind (·.tokenFileEndpoint)) layers
      loaded.classifier.tokenFileEndpoint ∧
    LastChangeCounts files default.classifier.tokenParam
      (fun stated => stated.classifier.bind (·.tokenParam)) layers loaded.classifier.tokenParam ∧
    LastChangeCounts files default.classifier.appFileEndpoint
      (fun stated => stated.classifier.bind (·.appFileEndpoint)) layers
      loaded.classifier.appFileEndpoint ∧
    LastChangeCounts files default.classifier.appAgentMarker
      (fun stated => stated.classifier.bind (·.appAgentMarker)) layers
      loaded.classifier.appAgentMarker ∧
    LastChangeCounts files default.patternSizeLimit (·.patternSizeLimit) layers
      loaded.patternSizeLimit ∧
    LastCounts files (fun _ => True) (fun stated => stated.maxInputBytes.map some) layers
      loaded.maxInputBytes := by
  intro default loaded
  refine ⟨fun _ _ => PartialSettings.inFile?_eq_some_iff,
    keptIn_tokenFileEndpoint.lastChangeCounts layers, keptIn_tokenParam.lastChangeCounts layers,
    keptIn_appFileEndpoint.lastChangeCounts layers, keptIn_appAgentMarker.lastChangeCounts layers,
    keptIn_patternSizeLimit.lastChangeCounts layers, ?_⟩
  intro before layer after stated split states _ silent
  apply (keptIn_maxInputBytes.lastChangeCounts layers).last before layer after stated split states
  · -- A number is never the default, which is to have no bound.
    obtain ⟨found, _, bounded⟩ := Option.bind_eq_some_iff.mp states
    obtain ⟨bound, _, rfl⟩ := Option.map_eq_some_iff.mp bounded
    exact Option.some_ne_none bound
  · intro later member other others
    exact absurd trivial (silent later member other others)

/-- Not every last statement counts: the first layer changes the name of a parameter, and its
default, which the second layer states, does not come back. -/
theorem restated_default_ignored :
    let _wording : Wording := ⟨fun _ _ => [], fun _ => [], fun _ => []⟩
    let files := FileSystem.ofEntries [
      (["a.json".toList], .file (List.utf8Encode
        "\x7b\"classifier\":\x7b\"tokenParam\":\"wstoken\"\x7d\x7d".toList)),
      (["b.json".toList], .file (List.utf8Encode
        "\x7b\"classifier\":\x7b\"tokenParam\":\"token\"\x7d\x7d".toList))]
    let first : SettingsLayer := ⟨"a.json".toList, "Custom".toList⟩
    let second : SettingsLayer := ⟨"b.json".toList, "Custom".toList⟩
    ¬ LastCounts files (fun _ => True) (fun stated => stated.classifier.bind (·.tokenParam))
      [first, second] (loadAll files [first, second]).value.classifier.tokenParam := by
  intro _wording files first second counts
  have changes : first.stated? files (fun stated => stated.classifier.bind (·.tokenParam)) =
      some "wstoken".toList := by
    rw [stated?_of_toJson { classifier := some { tokenParam := some "wstoken".toList } } (by cbv)
      (by decide)]
    rfl
  have restores : second.stated? files (fun stated => stated.classifier.bind (·.tokenParam)) =
      some "token".toList := by
    rw [stated?_of_toJson { classifier := some { tokenParam := some "token".toList } } (by cbv)
      (by decide)]
    rfl
  have kept :
      (loadAll files [first, second]).value.classifier.tokenParam = "wstoken".toList := by
    apply (keptIn_tokenParam.lastChangeCounts [first, second]).last [] first [second] _ rfl changes
    · decide
    · intro later member other others unlike
      rw [List.mem_singleton.mp member, restores, Option.some.injEq] at others
      exact unlike others.symm
  have restored :
      (loadAll files [first, second]).value.classifier.tokenParam = "token".toList :=
    counts [first] second [] _ rfl restores trivial
      (fun later nowhere => absurd nowhere List.not_mem_nil)
  rw [kept] at restored
  revert restored
  decide

end SettingsLayer

end ConditionalText
