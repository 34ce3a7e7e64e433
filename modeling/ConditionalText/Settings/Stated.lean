import ConditionalText.Settings.Basic

/-!
What a settings text states: each field or nothing. Fields that are not stated have their defaults.
-/

namespace ConditionalText

structure StatedClassifier where
  tokenFileEndpoint : Option Text := none
  tokenParam : Option Text := none
  appFileEndpoint : Option Text := none
  appAgentMarker : Option Text := none
  deriving Repr, DecidableEq

structure StatedSettings where
  classifier : Option ClassifierSettings := none
  patternSizeLimit : Option UInt64 := none
  /-- The limit may also be stated to be absent. -/
  maxInputBytes : Option (Option UInt64) := none
  deriving Repr, DecidableEq

def StatedClassifier.settings (stated : StatedClassifier) : ClassifierSettings :=
  let default : ClassifierSettings := {}
  { tokenFileEndpoint := stated.tokenFileEndpoint.getD default.tokenFileEndpoint
    tokenParam := stated.tokenParam.getD default.tokenParam
    appFileEndpoint := stated.appFileEndpoint.getD default.appFileEndpoint
    appAgentMarker := stated.appAgentMarker.getD default.appAgentMarker }

def StatedSettings.settings (stated : StatedSettings) : FilterSettings :=
  let default : FilterSettings := {}
  { classifier := stated.classifier.getD default.classifier
    patternSizeLimit := stated.patternSizeLimit.getD default.patternSizeLimit
    maxInputBytes := stated.maxInputBytes.getD default.maxInputBytes }

/-! The names of the fields in settings texts. -/

namespace FieldName

def tokenFileEndpoint : Text := "tokenFileEndpoint".toList
def tokenParam : Text := "tokenParam".toList
def appFileEndpoint : Text := "appFileEndpoint".toList
def appAgentMarker : Text := "appAgentMarker".toList
def classifier : Text := "classifier".toList
def patternSizeLimit : Text := "uaPatternSizeLimit".toList
def maxInputBytes : Text := "maxInputBytes".toList

end FieldName

end ConditionalText
