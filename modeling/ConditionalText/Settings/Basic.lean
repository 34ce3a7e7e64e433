import ConditionalText.Text.Basic

/-!
The settings of the filter, their defaults, and how one layer of settings overlays another: a layer
speaks for a field when its value there is not the default.
-/

namespace ConditionalText

structure ClassifierSettings where
  tokenFileEndpoint : Text := "webservice/pluginfile.php".toList
  tokenParam : Text := "token".toList
  appFileEndpoint : Text := "/tokenpluginfile.php".toList
  appAgentMarker : Text := "MoodleMobile".toList
  deriving Repr, DecidableEq

def defaultPatternSizeLimit : UInt64 := 1048576

structure FilterSettings where
  classifier : ClassifierSettings := {}
  patternSizeLimit : UInt64 := defaultPatternSizeLimit
  maxInputBytes : Option UInt64 := none
  deriving Repr, DecidableEq

/-- The overlay's value, unless it is the default. -/
def overlayField {α : Type} [DecidableEq α] (default base overlay : α) : α :=
  if overlay = default then base else overlay

namespace ClassifierSettings

def merge (base overlay : ClassifierSettings) : ClassifierSettings :=
  let default : ClassifierSettings := {}
  { tokenFileEndpoint :=
      overlayField default.tokenFileEndpoint base.tokenFileEndpoint overlay.tokenFileEndpoint
    tokenParam := overlayField default.tokenParam base.tokenParam overlay.tokenParam
    appFileEndpoint :=
      overlayField default.appFileEndpoint base.appFileEndpoint overlay.appFileEndpoint
    appAgentMarker :=
      overlayField default.appAgentMarker base.appAgentMarker overlay.appAgentMarker }

end ClassifierSettings

namespace FilterSettings

def merge (base overlay : FilterSettings) : FilterSettings :=
  let default : FilterSettings := {}
  { classifier := base.classifier.merge overlay.classifier
    patternSizeLimit :=
      overlayField default.patternSizeLimit base.patternSizeLimit overlay.patternSizeLimit
    maxInputBytes := overlayField default.maxInputBytes base.maxInputBytes overlay.maxInputBytes }

end FilterSettings

end ConditionalText
