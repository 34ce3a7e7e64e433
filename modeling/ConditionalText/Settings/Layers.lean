import ConditionalText.Event
import ConditionalText.Settings.File
import ConditionalText.Settings.Json
import ConditionalText.Settings.Toml

/-!
Loading settings from files: one file, or several layers of which each overlays those before it.
Files that are missing or broken leave the other layers as they are.
-/

namespace ConditionalText

inductive SettingsFormat where
  | json
  | toml
  deriving Repr, DecidableEq

namespace SettingsFormat

def tomlExtension : Text := "toml".toList

def ofPath (path : Text) : SettingsFormat :=
  match Path.extension? path with
  | some extension => if extension.lowerAscii = tomlExtension then .toml else .json
  | none => .json

end SettingsFormat

namespace FilterSettings

def parse (format : SettingsFormat) (text : Text) : Except Failure FilterSettings :=
  match format with
  | .json =>
      match Json.Document.decode ofNode text with
      | .ok settings => .ok settings
      | .error fault => .error (.json text fault)
  | .toml =>
      match (Toml.ofText? text).bind ofToml? with
      | some settings => .ok settings
      | none => .error (.toml text)

variable [Wording]

/-- The failure to understand the text of a file. -/
def invalidFile (path : Text) (failure : Failure) : Failure :=
  .configuration
    ("Invalid settings at ".toList ++ path ++ ": ".toList ++ failure.message)

def readFile (files : FileSystem) (path : Text) : Except Failure FilterSettings :=
  match files.lookup? path with
  | none => .error (.notFound path)
  | some entry =>
      match entry.read with
      | .error fault => .error (.unreadable fault)
      | .ok text =>
          match parse (.ofPath path) text with
          | .ok settings => .ok settings
          | .error failure => .error (invalidFile path failure)

def load (files : FileSystem) (path : Text) : Reported (Except Failure FilterSettings) :=
  let result := readFile files path
  ⟨result,
    match result with
    | .ok settings =>
        [.settingsFileRead path settings.classifier.tokenFileEndpoint
          (settings.maxInputBytes.map UInt64.toNat)]
    | .error _ => []⟩

end FilterSettings

structure SettingsLayer where
  path : Text
  description : Text
  deriving Repr, DecidableEq

namespace SettingsLayer

def directoryName : Text := ".fws".toList
def fileName : Text := "settings.json".toList
def localFileName : Text := "settings.local.json".toList

def inDirectory (directory name : Text) : Text :=
  Path.join (Path.join directory directoryName) name

/-- The usual layers: the user's, if the user has a home, the project's, and those of one working
copy. -/
def standard (home : Option Text) (workingDirectory : Text) : List SettingsLayer :=
  (home.map (fun home => ⟨inDirectory home fileName, "User settings".toList⟩)).toList ++ [
    ⟨inDirectory workingDirectory fileName, "Project settings".toList⟩,
    ⟨inDirectory workingDirectory localFileName, "Local settings".toList⟩]

def custom (paths : List Text) : List SettingsLayer :=
  paths.map (⟨·, "Custom".toList⟩)

variable [Wording]

def overlay (files : FileSystem) (settings : FilterSettings) (layer : SettingsLayer) :
    Reported FilterSettings :=
  if files.holds layer.path then
    let loaded := FilterSettings.load files layer.path
    match loaded.value with
    | .ok overlay =>
        ⟨settings.merge overlay,
          loaded.events ++ [.layerLoaded layer.description layer.path]⟩
    | .error failure => ⟨settings, loaded.events ++ [.layerRejected layer.path failure]⟩
  else ⟨settings, []⟩

def loadAll (files : FileSystem) (layers : List SettingsLayer) : Reported FilterSettings :=
  layers.foldlM (overlay files) {}

def existing (files : FileSystem) (layers : List SettingsLayer) : List Text :=
  (layers.map SettingsLayer.path).filter files.holds

end SettingsLayer

end ConditionalText
