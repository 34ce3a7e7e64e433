import ConditionalText.Proofs.BrokenFiles
import ConditionalText.Proofs.Overlay

/-!
Loading layers of settings. Only files that hold settings have a part in it: their settings are laid
over the defaults one after the other. What is missing or broken makes no difference, neither among
the layers nor on the disk, and of a path that is given twice only the later place counts.
-/

namespace ConditionalText

namespace SettingsLayer

section

variable [Wording] (files : FileSystem)

theorem overlay_value (settings : FilterSettings) (layer : SettingsLayer) :
    (overlay files settings layer).value =
      match FilterSettings.stored? files layer.path with
      | some stored => settings.merge stored
      | none => settings := by
  unfold overlay FileSystem.holds
  cases looked : files.lookup? layer.path with
  | none =>
      have absent := FilterSettings.stored?_of_lookup?_eq_none looked
      simp [absent]
  | some entry =>
      rw [← FilterSettings.readFile_toOption]
      cases read : FilterSettings.readFile files layer.path with
      | ok stored => simp [FilterSettings.load, read, Except.toOption]
      | error failure => simp [FilterSettings.load, read, Except.toOption]

def stored (files : FileSystem) (layers : List SettingsLayer) : List FilterSettings :=
  layers.filterMap (fun layer => FilterSettings.stored? files layer.path)

theorem loadAll_value (layers : List SettingsLayer) :
    (loadAll files layers).value = (stored files layers).foldl FilterSettings.merge {} := by
  have folded : ∀ base : FilterSettings,
      layers.foldl (fun settings layer => (overlay files settings layer).value) base =
        (stored files layers).foldl FilterSettings.merge base := by
    induction layers with
    | nil => intro base; rfl
    | cons layer layers ih =>
        intro base
        rw [List.foldl_cons, ih, overlay_value]
        cases found : FilterSettings.stored? files layer.path with
        | none => simp [stored, found]
        | some settings => simp [stored, found]
  rw [loadAll, Reported.foldlM_value, folded]

end

end SettingsLayer

end ConditionalText
