import ConditionalText.Proofs.Layering
import ConditionalText.Proofs.PartialSettings
import ConditionalText.Request.Json

/-!
Whatever is written in JSON reads back as it was: settings, on their own and as the only layer, the
part of them about the classifier, and request contexts.
-/

namespace ConditionalText

open Json (Document)

theorem ClassifierSettings.ofNode_toJson (settings : ClassifierSettings) :
    ofNode settings.toJson.node = .ok settings :=
  StatedClassifier.ofNode_toJson ⟨some settings.tokenFileEndpoint, some settings.tokenParam,
    some settings.appFileEndpoint, some settings.appAgentMarker⟩

theorem RequestContext.ofNode_toJson (context : RequestContext) :
    ofNode context.toJson.node = .ok context :=
  rfl

namespace FilterSettings

theorem toJson_ofSettings (settings : FilterSettings) :
    (PartialSettings.ofSettings settings).toJson = settings.toJson := by
  obtain ⟨classifier, limit, bound⟩ := settings
  cases bound with
  | none => rfl
  | some bound => rfl

theorem parse_toJson (settings : FilterSettings) :
    parse .json settings.toJson.render = .ok settings := by
  have read := PartialSettings.decode_toJson (.ofSettings settings)
  rw [toJson_ofSettings, PartialSettings.settings_ofSettings] at read
  rw [parse, read]

theorem stored?_toJson {files : FileSystem} {path : Text} {settings : FilterSettings}
    (named : Path.extension? path = some "json".toList)
    (written : files.lookup? path = some (.file (List.utf8Encode settings.toJson.render))) :
    stored? files path = some settings := by
  have format : SettingsFormat.ofPath path = .json := by
    rw [SettingsFormat.ofPath, named]
    rfl
  rw [stored?_eq_some_iff]
  refine ⟨settings.toJson.render, written, ?_⟩
  rw [format]
  exact parse_toJson settings

end FilterSettings

/-- Reading undoes writing: for settings of the filter, also when they are loaded from a file that is
the only layer, for those of the classifier, and for request contexts. -/
theorem json_round_trip [Wording] :
    (∀ settings : FilterSettings,
      FilterSettings.parse .json settings.toJson.render = .ok settings ∧
      ∀ (files : FileSystem) (layer : SettingsLayer),
        Path.extension? layer.path = some "json".toList →
        files.lookup? layer.path = some (.file (List.utf8Encode settings.toJson.render)) →
        (SettingsLayer.loadAll files [layer]).value = settings) ∧
    (∀ settings : ClassifierSettings,
      Document.decode ClassifierSettings.ofNode settings.toJson.render = .ok settings) ∧
    ∀ context : RequestContext,
      Document.decode RequestContext.ofNode context.toJson.render = .ok context := by
  refine ⟨?_, ?_, ?_⟩
  · intro settings
    refine ⟨FilterSettings.parse_toJson settings, ?_⟩
    intro files layer named written
    have found := FilterSettings.stored?_toJson named written
    have alone : SettingsLayer.stored files [layer] = [settings] := by
      simp [SettingsLayer.stored, found]
    rw [SettingsLayer.loadAll_value, alone]
    exact FilterSettings.default_merge settings
  · intro settings
    rw [Document.decode_render, ClassifierSettings.ofNode_toJson]
  · intro context
    rw [Document.decode_render, RequestContext.ofNode_toJson]

end ConditionalText
