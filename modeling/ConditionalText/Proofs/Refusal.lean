import ConditionalText.Proofs.Rewriting

/-!
When a document is refused. Its length alone decides, once there may be a marker in it: then nothing
of it is filtered. Any other document is filtered as a whole, and a pattern that cannot be used does
not keep the rest from being filtered.
-/

namespace ConditionalText.FilterSettings

theorem exceededLimit?_eq_some_iff {settings : FilterSettings} {text : Text} {bytes : Nat} :
    settings.exceededLimit? text = some bytes ↔
      ∃ limit, settings.maxInputBytes = some limit ∧ limit.toNat < text.utf8Length ∧
        bytes = limit.toNat := by
  rw [exceededLimit?, Option.bind_eq_some_iff]
  constructor
  · rintro ⟨limit, limited, found⟩
    split at found
    · rename_i longer
      cases found
      exact ⟨limit, limited, longer, rfl⟩
    · cases found
  · rintro ⟨limit, limited, longer, rfl⟩
    exact ⟨limit, limited, if_pos longer⟩

/-- The document is too long to be scanned. -/
def Refuses (settings : FilterSettings) (text : Text) (limit : UInt64) : Prop :=
  Marker.mayContain text = true ∧ settings.maxInputBytes = some limit ∧
    limit.toNat < text.utf8Length

theorem accepts_or_refuses (settings : FilterSettings) (text : Text) :
    settings.Accepts text ∨ ∃ limit, settings.Refuses text limit := by
  by_cases refused : ∃ limit, settings.Refuses text limit
  · exact Or.inr refused
  · left
    intro limit limited present
    by_contra longer
    exact refused ⟨limit, present, limited, Nat.lt_of_not_le longer⟩

/-- What is refused depends on the limit and on the length, not on what the blocks say. -/
theorem refuses_iff_of_eq {settings settings' : FilterSettings} {text text' : Text}
    (sameLimit : settings'.maxInputBytes = settings.maxInputBytes)
    (sameTest : Marker.mayContain text' = Marker.mayContain text)
    (sameLength : text'.utf8Length = text.utf8Length) (limit : UInt64) :
    settings'.Refuses text' limit ↔ settings.Refuses text limit := by
  rw [Refuses, Refuses, sameLimit, sameTest, sameLength]

section

variable [PatternEngine] (settings : FilterSettings) (context : RequestContext)

theorem tryFilter_of_refuses {settings : FilterSettings} {text : Text} {limit : UInt64}
    (refused : settings.Refuses text limit) :
    (settings.tryFilter context text).value =
      .error (.inputTooLarge text.utf8Length limit.toNat) := by
  obtain ⟨present, limited, longer⟩ := refused
  have exceeded := exceededLimit?_eq_some_iff.mpr ⟨limit, limited, longer, rfl⟩
  simp [tryFilter, present, exceeded]

theorem tryFilter_eq_error_iff {text : Text} {failure : FilterFailure} :
    (settings.tryFilter context text).value = .error failure ↔
      ∃ limit, settings.Refuses text limit ∧
        failure = .inputTooLarge text.utf8Length limit.toNat := by
  constructor
  · intro failed
    rcases settings.accepts_or_refuses text with accepted | ⟨limit, refused⟩
    · rw [tryFilter_value_of_accepts context accepted] at failed
      cases failed
    · rw [tryFilter_of_refuses context refused] at failed
      cases failed
      exact ⟨limit, refused, rfl⟩
  · rintro ⟨limit, refused, rfl⟩
    exact tryFilter_of_refuses context refused

theorem accepts_of_tryFilter_eq_ok {settings : FilterSettings} {text : Text} {outcome : Outcome}
    (tried : (settings.tryFilter context text).value = .ok outcome) : settings.Accepts text := by
  rcases settings.accepts_or_refuses text with accepted | ⟨limit, refused⟩
  · exact accepted
  · rw [tryFilter_of_refuses context refused] at tried
    cases tried

theorem filter_value_of_tryFilter_eq_error {text : Text} {failure : FilterFailure}
    (failed : (settings.tryFilter context text).value = .error failure) :
    (settings.filter context text).value = .kept := by
  simp [filter, failed]

theorem filter_value_of_tryFilter_eq_ok {text : Text} {outcome : Outcome}
    (tried : (settings.tryFilter context text).value = .ok outcome) :
    (settings.filter context text).value = outcome := by
  simp [filter, tried]

theorem tryFilter_eq_of_accepts {text : Text} {limit : Option UInt64}
    (accepted : settings.Accepts text)
    (accepted' : ({ settings with maxInputBytes := limit } : FilterSettings).Accepts text) :
    ({ settings with maxInputBytes := limit } : FilterSettings).tryFilter context text =
      settings.tryFilter context text := by
  cases present : Marker.mayContain text with
  | false => simp [tryFilter, present]
  | true =>
      have within := exceededLimit?_eq_none_of_accepts accepted present
      have within' := exceededLimit?_eq_none_of_accepts accepted' present
      simp only [tryFilter, present, within, within', Bool.not_true, Bool.false_eq_true, if_false]
      rfl

/-- Filtering succeeds with the whole document or fails with all of it. It fails exactly if there
may be a marker in the document and the document is longer than the limit; the failure names both
lengths and can be recovered from, and the document stays as it is. It never fails for a pattern:
two documents of one length fare alike, whatever their blocks say and to whomever they are shown.
And a limit that a document does not exceed has no part in the outcome. -/
theorem tryFilter_all_or_nothing (text : Text) :
    (∀ failure, (settings.tryFilter context text).value = .error failure ↔
      ∃ limit, settings.Refuses text limit ∧
        failure = .inputTooLarge text.utf8Length limit.toNat) ∧
    (∀ failure, (settings.tryFilter context text).value = .error failure →
      (∃ limit, settings.maxInputBytes = some limit ∧
        failure.toFailure = .inputTooLarge text.utf8Length limit.toNat) ∧
      failure.toFailure.isRecoverable = true ∧ (settings.filter context text).value = .kept) ∧
    (∀ outcome, (settings.tryFilter context text).value = .ok outcome →
      (settings.filter context text).value = outcome) ∧
    (∀ pattern reason,
      (settings.tryFilter context text).value ≠ .error (.agentPattern pattern reason)) ∧
    (∀ (settings' : FilterSettings) (context' : RequestContext) (text' : Text),
      settings'.maxInputBytes = settings.maxInputBytes →
      Marker.mayContain text' = Marker.mayContain text →
      text'.utf8Length = text.utf8Length →
      ∀ failure, (settings'.tryFilter context' text').value = .error failure ↔
        (settings.tryFilter context text).value = .error failure) ∧
    ∀ (limit : Option UInt64) (outcome outcome' : Outcome),
      (settings.tryFilter context text).value = .ok outcome →
      (({ settings with maxInputBytes := limit } : FilterSettings).tryFilter context text).value =
        .ok outcome' →
      ({ settings with maxInputBytes := limit } : FilterSettings).tryFilter context text =
          settings.tryFilter context text ∧
        ({ settings with maxInputBytes := limit } : FilterSettings).filter context text =
          settings.filter context text := by
  refine ⟨fun _ => settings.tryFilter_eq_error_iff context, ?_,
    fun _ => settings.filter_value_of_tryFilter_eq_ok context, ?_, ?_, ?_⟩
  · intro failure failed
    obtain ⟨limit, ⟨_, limited, _⟩, rfl⟩ := (settings.tryFilter_eq_error_iff context).mp failed
    exact ⟨⟨limit, limited, rfl⟩, rfl,
      settings.filter_value_of_tryFilter_eq_error context failed⟩
  · intro pattern reason failed
    obtain ⟨_, _, other⟩ := (settings.tryFilter_eq_error_iff context).mp failed
    cases other
  · intro settings' context' text' sameLimit sameTest sameLength failure
    rw [tryFilter_eq_error_iff, tryFilter_eq_error_iff, sameLength]
    simp only [refuses_iff_of_eq sameLimit sameTest sameLength]
  · intro limit outcome outcome' tried tried'
    have accepted := accepts_of_tryFilter_eq_ok context tried
    have accepted' := accepts_of_tryFilter_eq_ok context tried'
    have same := settings.tryFilter_eq_of_accepts context accepted accepted'
    exact ⟨same, by rw [filter, filter, same]⟩

end

example [PatternEngine] : (tryFilter { maxInputBytes := some 16 } (.web [])
    "\u00e4\x7bfws ws\x7dB\x7bfws\x7dc".toList).value = .error (.inputTooLarge 17 16) := by cbv

end ConditionalText.FilterSettings
