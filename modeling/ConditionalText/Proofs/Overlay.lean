import Mathlib.Data.List.Basic
import ConditionalText.Settings.Basic

/-!
Settings laid over settings. Laying over is associative and the defaults change nothing on either
side, so a row of layers may be taken together in any grouping. Of each field the last layer counts
that has something else than the default there; a layer that comes again later may as well be left
out before.
-/

namespace ConditionalText

section

variable {α : Type} [DecidableEq α] (default : α)

theorem overlayField_default (base : α) : overlayField default base default = base :=
  if_pos rfl

theorem overlayField_of_ne {default overlay : α} (changed : overlay ≠ default) (base : α) :
    overlayField default base overlay = overlay :=
  if_neg changed

theorem default_overlayField (overlay : α) : overlayField default default overlay = overlay := by
  by_cases unchanged : overlay = default
  · rw [unchanged, overlayField_default]
  · rw [overlayField_of_ne unchanged]

theorem overlayField_assoc (first second third : α) :
    overlayField default (overlayField default first second) third =
      overlayField default first (overlayField default second third) := by
  by_cases unchanged : third = default
  · rw [unchanged, overlayField_default, overlayField_default]
  · rw [overlayField_of_ne unchanged, overlayField_of_ne unchanged, overlayField_of_ne unchanged]

theorem overlayField_again (value between : α) :
    overlayField default (overlayField default value between) value =
      overlayField default between value := by
  by_cases unchanged : value = default
  · rw [unchanged, overlayField_default, overlayField_default, default_overlayField]
  · rw [overlayField_of_ne unchanged, overlayField_of_ne unchanged]

/-- Only the last of the values that differ from the default is left. -/
theorem foldl_overlayField (base : α) (values : List α) :
    values.foldl (overlayField default) base =
      ((values.filter (fun value => value ≠ default)).getLast?).getD base := by
  induction values generalizing base with
  | nil => rfl
  | cons value values ih =>
      rw [List.foldl_cons, ih]
      by_cases unchanged : value = default
      · have skipped : (value :: values).filter (fun value => value ≠ default) =
            values.filter (fun value => value ≠ default) :=
          List.filter_cons_of_neg (by simpa using unchanged)
        rw [skipped, unchanged, overlayField_default]
      · have taken : (value :: values).filter (fun value => value ≠ default) =
            value :: values.filter (fun value => value ≠ default) :=
          List.filter_cons_of_pos (by simpa using unchanged)
        rw [taken, overlayField_of_ne unchanged, List.getLast?_cons, Option.getD_some]

end

namespace ClassifierSettings

theorem merge_default (settings : ClassifierSettings) : settings.merge {} = settings := by
  simp only [merge, overlayField_default]

theorem default_merge (settings : ClassifierSettings) :
    ClassifierSettings.merge {} settings = settings := by
  simp only [merge, default_overlayField]

theorem merge_assoc (first second third : ClassifierSettings) :
    (first.merge second).merge third = first.merge (second.merge third) := by
  simp only [merge, overlayField_assoc]

theorem merge_again (settings between : ClassifierSettings) :
    (settings.merge between).merge settings = between.merge settings := by
  simp only [merge, overlayField_again]

end ClassifierSettings

namespace FilterSettings

theorem merge_default (settings : FilterSettings) : settings.merge {} = settings := by
  simp only [merge, overlayField_default, ClassifierSettings.merge_default]

theorem default_merge (settings : FilterSettings) : FilterSettings.merge {} settings = settings := by
  simp only [merge, default_overlayField, ClassifierSettings.default_merge]

theorem merge_assoc (first second third : FilterSettings) :
    (first.merge second).merge third = first.merge (second.merge third) := by
  simp only [merge, overlayField_assoc, ClassifierSettings.merge_assoc]

theorem merge_again (settings between : FilterSettings) :
    (settings.merge between).merge settings = between.merge settings := by
  simp only [merge, overlayField_again, ClassifierSettings.merge_again]

/-- What the last of the layers that changes a field has there, or the default. -/
def lastChanged {α : Type} [DecidableEq α] (field : FilterSettings → α)
    (layers : List FilterSettings) : α :=
  (((layers.map field).filter (fun value => value ≠ field {})).getLast?).getD (field {})

theorem field_foldl_merge {α : Type} [DecidableEq α] (field : FilterSettings → α)
    (merged : ∀ base overlay,
      field (base.merge overlay) = overlayField (field {}) (field base) (field overlay))
    (layers : List FilterSettings) : field (layers.foldl merge {}) = lastChanged field layers := by
  have folded : ∀ base : FilterSettings,
      field (layers.foldl merge base) =
        (layers.map field).foldl (overlayField (field {})) (field base) := by
    induction layers with
    | nil => intro base; rfl
    | cons layer layers ih =>
        intro base
        rw [List.foldl_cons, ih, merged, List.map_cons, List.foldl_cons]
  rw [folded, foldl_overlayField, lastChanged]

def latest (layers : List FilterSettings) : FilterSettings :=
  { classifier :=
      { tokenFileEndpoint := lastChanged (·.classifier.tokenFileEndpoint) layers
        tokenParam := lastChanged (·.classifier.tokenParam) layers
        appFileEndpoint := lastChanged (·.classifier.appFileEndpoint) layers
        appAgentMarker := lastChanged (·.classifier.appAgentMarker) layers }
    patternSizeLimit := lastChanged (·.patternSizeLimit) layers
    maxInputBytes := lastChanged (·.maxInputBytes) layers }

theorem foldl_merge_eq_latest (layers : List FilterSettings) :
    layers.foldl merge {} = latest layers := by
  unfold latest
  rw [← field_foldl_merge (·.classifier.tokenFileEndpoint) (fun _ _ => rfl),
    ← field_foldl_merge (·.classifier.tokenParam) (fun _ _ => rfl),
    ← field_foldl_merge (·.classifier.appFileEndpoint) (fun _ _ => rfl),
    ← field_foldl_merge (·.classifier.appAgentMarker) (fun _ _ => rfl),
    ← field_foldl_merge (·.patternSizeLimit) (fun _ _ => rfl),
    ← field_foldl_merge (·.maxInputBytes) (fun _ _ => rfl)]

end FilterSettings

end ConditionalText
