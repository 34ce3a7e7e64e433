import ConditionalText.Proofs.Overlay

/-!
The algebra of laying settings over each other. Any grouping of the layers gives the same settings,
the defaults neither give nor take, and a layer that comes again makes its earlier copy idle. The
order of two layers matters exactly if they change one field in different ways. So a row of layers
laid over anything is one layer, and that is as the last change of each field has it.
-/

namespace ConditionalText

/-- Values that are laid over each other, starting from `default`; `Compatible` tells which of them
may change places. -/
structure OverlayLaws {α : Type} (merge : α → α → α) (default : α)
    (Compatible : α → α → Prop) : Prop where
  assoc : ∀ first second third,
    merge (merge first second) third = merge first (merge second third)
  overDefault : ∀ value, merge default value = value
  underDefault : ∀ value, merge value default = value
  again : ∀ value between, merge (merge value between) value = merge between value
  comm_iff : ∀ left right, merge left right = merge right left ↔ Compatible left right

namespace OverlayLaws

variable {α : Type} {merge : α → α → α} {default : α} {Compatible : α → α → Prop}

theorem idem (laws : OverlayLaws merge default Compatible) (value : α) :
    merge value value = value := by
  have again := laws.again value default
  rwa [laws.underDefault, laws.overDefault] at again

/-- Laying values over `base` one after the other is laying them over it at once. -/
theorem foldl_eq (laws : OverlayLaws merge default Compatible) (base : α) (values : List α) :
    values.foldl merge base = merge base (values.foldr merge default) := by
  induction values generalizing base with
  | nil => exact (laws.underDefault base).symm
  | cons value values ih => rw [List.foldl_cons, List.foldr_cons, ih, laws.assoc]

end OverlayLaws

/-- Not both values differ from the default, unless they are the same. -/
def CompatibleAt {α : Type} (default left right : α) : Prop :=
  left ≠ default → right ≠ default → left = right

theorem overlayField_comm_iff {α : Type} [DecidableEq α] (default left right : α) :
    overlayField default left right = overlayField default right left ↔
      CompatibleAt default left right := by
  by_cases leftIdle : left = default
  · subst leftIdle
    rw [default_overlayField, overlayField_default]
    exact iff_of_true rfl (fun changed => absurd rfl changed)
  by_cases rightIdle : right = default
  · subst rightIdle
    rw [default_overlayField, overlayField_default]
    exact iff_of_true rfl (fun _ changed => absurd rfl changed)
  rw [overlayField_of_ne leftIdle, overlayField_of_ne rightIdle]
  constructor
  · intro same _ _
    exact same.symm
  · intro compatible
    exact (compatible leftIdle rightIdle).symm

namespace ClassifierSettings

structure Compatible (left right : ClassifierSettings) : Prop where
  tokenFileEndpoint : CompatibleAt ({} : ClassifierSettings).tokenFileEndpoint
    left.tokenFileEndpoint right.tokenFileEndpoint
  tokenParam : CompatibleAt ({} : ClassifierSettings).tokenParam left.tokenParam right.tokenParam
  appFileEndpoint : CompatibleAt ({} : ClassifierSettings).appFileEndpoint
    left.appFileEndpoint right.appFileEndpoint
  appAgentMarker : CompatibleAt ({} : ClassifierSettings).appAgentMarker
    left.appAgentMarker right.appAgentMarker

theorem merge_comm_iff (left right : ClassifierSettings) :
    left.merge right = right.merge left ↔ left.Compatible right := by
  rw [merge, merge, ClassifierSettings.mk.injEq]
  simp only [overlayField_comm_iff]
  constructor
  · rintro ⟨endpoint, param, appEndpoint, appMarker⟩
    exact ⟨endpoint, param, appEndpoint, appMarker⟩
  · rintro ⟨endpoint, param, appEndpoint, appMarker⟩
    exact ⟨endpoint, param, appEndpoint, appMarker⟩

theorem overlayLaws : OverlayLaws merge {} Compatible where
  assoc := merge_assoc
  overDefault := default_merge
  underDefault := merge_default
  again := merge_again
  comm_iff := merge_comm_iff

end ClassifierSettings

namespace FilterSettings

structure Compatible (left right : FilterSettings) : Prop where
  classifier : left.classifier.Compatible right.classifier
  patternSizeLimit : CompatibleAt ({} : FilterSettings).patternSizeLimit
    left.patternSizeLimit right.patternSizeLimit
  maxInputBytes : CompatibleAt ({} : FilterSettings).maxInputBytes
    left.maxInputBytes right.maxInputBytes

theorem merge_comm_iff (left right : FilterSettings) :
    left.merge right = right.merge left ↔ left.Compatible right := by
  rw [merge, merge, FilterSettings.mk.injEq]
  simp only [overlayField_comm_iff, ClassifierSettings.merge_comm_iff]
  constructor
  · rintro ⟨classifier, limit, bound⟩
    exact ⟨classifier, limit, bound⟩
  · rintro ⟨classifier, limit, bound⟩
    exact ⟨classifier, limit, bound⟩

theorem overlayLaws : OverlayLaws merge {} Compatible where
  assoc := merge_assoc
  overDefault := default_merge
  underDefault := merge_default
  again := merge_again
  comm_iff := merge_comm_iff

theorem merge_classifier (settings : FilterSettings) (overlay : ClassifierSettings) :
    settings.merge { classifier := overlay } =
      { settings with classifier := settings.classifier.merge overlay } := by
  simp only [merge, overlayField_default]

end FilterSettings

/-- Settings, and classifiers alike, obey the laws of overlays. A row of them laid over the defaults,
or over anything else, is a single one, in which each field is as the last layer that changes it has
it; layers that are only classifiers fit into such a row. -/
theorem overlay_algebra :
    OverlayLaws ClassifierSettings.merge {} ClassifierSettings.Compatible ∧
    OverlayLaws FilterSettings.merge {} FilterSettings.Compatible ∧
    (∀ settings : ClassifierSettings, settings.merge settings = settings) ∧
    (∀ settings : FilterSettings, settings.merge settings = settings) ∧
    (∀ (base : ClassifierSettings) (layers : List ClassifierSettings),
      layers.foldl ClassifierSettings.merge base =
        base.merge (layers.foldr ClassifierSettings.merge {})) ∧
    (∀ (base : FilterSettings) (layers : List FilterSettings),
      layers.foldl FilterSettings.merge base =
          base.merge (layers.foldr FilterSettings.merge {}) ∧
        layers.foldr FilterSettings.merge {} = FilterSettings.latest layers) ∧
    ∀ (settings : FilterSettings) (overlay : ClassifierSettings),
      { settings with classifier := settings.classifier.merge overlay } =
        settings.merge { classifier := overlay } := by
  have classifierLaws := ClassifierSettings.overlayLaws
  have settingsLaws := FilterSettings.overlayLaws
  refine ⟨classifierLaws, settingsLaws, classifierLaws.idem, settingsLaws.idem,
    classifierLaws.foldl_eq, ?_, ?_⟩
  · intro base layers
    refine ⟨settingsLaws.foldl_eq base layers, ?_⟩
    rw [← FilterSettings.foldl_merge_eq_latest, settingsLaws.foldl_eq, settingsLaws.overDefault]
  · intro settings overlay
    exact (settings.merge_classifier overlay).symm

end ConditionalText
