import ConditionalText.Request.Classifier
import Mathlib.Data.List.Induction

/-!
What a request keeps of the steps that built it. An attribute is what the last write to it since the
last reset has put there, and every parameter is an attribute of its own. What was overwritten is
forgotten, and so is the order in which different attributes were written. The classifier asks for
one parameter only, and no other one can make a difference to it.
-/

namespace ConditionalText

namespace Request

theorem ofSteps_concat (steps : List Step) (step : Step) :
    ofSteps (steps ++ [step]) = (ofSteps steps).apply step := by
  rw [ofSteps, List.foldl_append]
  rfl

theorem param?_withParam_self (request : Request) (name value : Text) :
    (request.withParam name value).param? name = some value :=
  List.lookup_cons_self

theorem lookup_filter_name_ne {name other : Text} (different : other ≠ name)
    (entries : List (Text × Text)) :
    (entries.filter (fun entry => entry.1 != name)).lookup other = entries.lookup other := by
  have differs := beq_eq_false_iff_ne.mpr different
  induction entries with
  | nil => rfl
  | cons entry entries ih =>
      obtain ⟨stated, stored⟩ := entry
      by_cases same : stated = name
      · subst stated
        rw [List.filter_cons_of_neg (by simp), ih, List.lookup_cons, differs]
      · rw [List.filter_cons_of_pos (by simpa using same), List.lookup_cons, List.lookup_cons, ih]

theorem param?_withParam_of_ne (request : Request) {name other : Text} (different : other ≠ name)
    (value : Text) : (request.withParam name value).param? other = request.param? other := by
  have differs := beq_eq_false_iff_ne.mpr different
  rw [withParam, param?, List.lookup_cons, differs]
  exact lookup_filter_name_ne different request.params

/-- The last step since the last reset that writes to an attribute writes `value` to it. -/
def LastWrite {α : Type} (write : α → Step) (steps : List Step) (value : α) : Prop :=
  ∃ earlier later, steps = earlier ++ write value :: later ∧
    ∀ step ∈ later, step ≠ .reset ∧ ∀ other, step ≠ write other

section

variable {α β : Type} {write : α → Step}

theorem not_lastWrite_nil (value : α) : ¬ LastWrite write [] value := by
  intro last
  obtain ⟨earlier, later, split, _⟩ := last
  simp at split

theorem lastWrite_concat_iff {steps : List Step} {step : Step} {value : α} :
    LastWrite write (steps ++ [step]) value ↔
      step = write value ∨
        (step ≠ .reset ∧ (∀ other, step ≠ write other) ∧ LastWrite write steps value) := by
  constructor
  · intro last
    obtain ⟨earlier, later, split, quiet⟩ := last
    rcases List.eq_nil_or_concat later with none | ⟨between, final, rest⟩
    · left
      subst none
      obtain ⟨_, same⟩ := List.append_inj' split rfl
      exact List.singleton_inj.mp same
    · right
      subst rest
      have split' : steps ++ [step] = (earlier ++ write value :: between) ++ [final] := by
        simpa using split
      obtain ⟨before, same⟩ := List.append_inj' split' rfl
      cases same
      have unwritten := quiet step (by simp)
      refine ⟨unwritten.1, unwritten.2, earlier, between, before, ?_⟩
      intro other member
      exact quiet other (by simp [member])
  · intro cause
    rcases cause with here | ⟨noReset, noWrite, earlier, later, split, quiet⟩
    · exact ⟨steps, [], by rw [here], by simp⟩
    · refine ⟨earlier, later ++ [step], by simp [split], ?_⟩
      intro other member
      rcases List.mem_append.mp member with inside | last
      · exact quiet other inside
      · rw [List.mem_singleton.mp last]
        exact ⟨noReset, noWrite⟩

/-- `shown` is what the last write to an attribute makes of it, or `initial` if there is none. -/
structure ShowsLastWrite (write : α → Step) (found : α → β) (initial : β) (steps : List Step)
    (shown : β) : Prop where
  written : ∀ value, LastWrite write steps value → shown = found value
  unwritten : (∀ value, ¬ LastWrite write steps value) → shown = initial

/-- An accessor sees what is written to its attribute, and no other step but a reset. -/
structure KeepsWrites (get : Request → β) (write : α → Step) (found : α → β) (initial : β) :
    Prop where
  fresh : get {} = initial
  written : ∀ (request : Request) value, get (request.apply (write value)) = found value
  unwritten : ∀ (request : Request) step, step ≠ .reset → (∀ value, step ≠ write value) →
    get (request.apply step) = get request

theorem KeepsWrites.showsLastWrite {get : Request → β} {found : α → β} {initial : β}
    (keeps : KeepsWrites get write found initial) (steps : List Step) :
    ShowsLastWrite write found initial steps (get (ofSteps steps)) := by
  -- From the end, as the last step has the last word.
  induction steps using List.reverseRecOn with
  | nil =>
      constructor
      · intro value last
        exact absurd last (not_lastWrite_nil value)
      · intro _
        exact keeps.fresh
  | append_singleton steps step ih =>
      rw [ofSteps_concat]
      constructor
      · intro value last
        rcases lastWrite_concat_iff.mp last with here | ⟨noReset, noWrite, before⟩
        · rw [here, keeps.written]
        · rw [keeps.unwritten _ step noReset noWrite]
          exact ih.written value before
      · intro none
        by_cases reset : step = .reset
        · rw [reset]
          exact keeps.fresh
        · have noWrite : ∀ value, step ≠ write value := by
            intro value here
            exact none value (lastWrite_concat_iff.mpr (Or.inl here))
          rw [keeps.unwritten _ step reset noWrite]
          apply ih.unwritten
          intro value before
          exact none value (lastWrite_concat_iff.mpr (Or.inr ⟨reset, noWrite, before⟩))

theorem ShowsLastWrite.eq_of_same {found : α → β} {initial shown shown' : β}
    {steps steps' : List Step} (shows' : ShowsLastWrite write found initial steps' shown')
    (shows : ShowsLastWrite write found initial steps shown)
    (same : ∀ value, LastWrite write steps' value ↔ LastWrite write steps value) :
    shown' = shown := by
  by_cases present : ∃ value, LastWrite write steps value
  · obtain ⟨value, last⟩ := present
    rw [shows.written value last, shows'.written value ((same value).mpr last)]
  · have absent : ∀ value, ¬ LastWrite write steps value := not_exists.mp present
    have absent' : ∀ value, ¬ LastWrite write steps' value := by
      intro value last
      exact absent value ((same value).mp last)
    rw [shows.unwritten absent, shows'.unwritten absent']

end

theorem keepsWrites_serviceMode :
    KeepsWrites Request.serviceMode Step.serviceMode id false := {
  fresh := rfl
  written := fun _ _ => rfl
  unwritten := by
    intro request step noReset noWrite
    cases step with
    | serviceMode enabled => exact absurd rfl (noWrite enabled)
    | reset => exact absurd rfl noReset
    | path | param | userAgent => rfl }

theorem keepsWrites_path : KeepsWrites Request.path Step.path id [] := {
  fresh := rfl
  written := fun _ _ => rfl
  unwritten := by
    intro request step noReset noWrite
    cases step with
    | path path => exact absurd rfl (noWrite path)
    | reset => exact absurd rfl noReset
    | serviceMode | param | userAgent => rfl }

theorem keepsWrites_userAgent : KeepsWrites Request.userAgent Step.userAgent id [] := {
  fresh := rfl
  written := fun _ _ => rfl
  unwritten := by
    intro request step noReset noWrite
    cases step with
    | userAgent userAgent => exact absurd rfl (noWrite userAgent)
    | reset => exact absurd rfl noReset
    | serviceMode | path | param => rfl }

theorem keepsWrites_param (name : Text) :
    KeepsWrites (fun request => request.param? name) (Step.param name) some none := {
  fresh := rfl
  written := fun request value => request.param?_withParam_self name value
  unwritten := by
    intro request step noReset noWrite
    cases step with
    | param stated value =>
        apply request.param?_withParam_of_ne
        intro same
        exact noWrite value (by rw [same])
    | reset => exact absurd rfl noReset
    | serviceMode | path | userAgent => rfl }

end Request

namespace ClassifierSettings

open RequestEnvironment (serviceMode path param? userAgent)

/-- The two requests are alike in all that a classifier with these settings asks for. -/
structure SeesSame (settings : ClassifierSettings) {Host Host' : Type} [RequestEnvironment Host]
    [RequestEnvironment Host'] (request : Host) (request' : Host') : Prop where
  mode : serviceMode request' = serviceMode request
  path : path request' = path request
  agent : userAgent request' = userAgent request
  token : param? request' settings.tokenParam = param? request settings.tokenParam

section

variable {settings : ClassifierSettings} {Host Host' : Type} [RequestEnvironment Host]
  [RequestEnvironment Host'] {request : Host} {request' : Host'}

theorem SeesSame.classify_eq (same : settings.SeesSame request request') :
    settings.classify request' = settings.classify request := by
  have sameToken : settings.isTokenFileRequest request' = settings.isTokenFileRequest request := by
    rw [isTokenFileRequest, isTokenFileRequest, same.path, same.token]
  have sameApp : settings.isAppFileRequest request' = settings.isAppFileRequest request := by
    rw [isAppFileRequest, isAppFileRequest, same.path, same.agent]
  have sameChannel : settings.channel request' = settings.channel request := by
    rw [channel, channel, same.mode, sameToken, sameApp]
  rw [classify, classify, sameChannel, same.path]

theorem SeesSame.context_eq (same : settings.SeesSame request request') :
    settings.context request' = settings.context request := by
  rw [context, context, same.classify_eq, same.agent]

theorem SeesSame.bind_eq (same : settings.SeesSame request request') :
    RequestView.bind settings request' = RequestView.bind settings request := by
  rw [RequestView.bind, RequestView.bind, isServiceAccess, isServiceAccess, same.classify_eq,
    same.agent]

end

end ClassifierSettings

namespace Request

/-- The two sequences write the same last to the parameter `name` and to every attribute that is no
parameter. -/
structure SameLastWrites (name : Text) (steps steps' : List Step) : Prop where
  serviceMode : ∀ enabled,
    LastWrite Step.serviceMode steps' enabled ↔ LastWrite Step.serviceMode steps enabled
  path : ∀ path, LastWrite Step.path steps' path ↔ LastWrite Step.path steps path
  userAgent : ∀ userAgent,
    LastWrite Step.userAgent steps' userAgent ↔ LastWrite Step.userAgent steps userAgent
  param : ∀ value, LastWrite (Step.param name) steps' value ↔ LastWrite (Step.param name) steps value

theorem SameLastWrites.seesSame {settings : ClassifierSettings} {steps steps' : List Step}
    (same : SameLastWrites settings.tokenParam steps steps') :
    settings.SeesSame (ofSteps steps) (ofSteps steps') := {
  mode := (keepsWrites_serviceMode.showsLastWrite steps').eq_of_same
    (keepsWrites_serviceMode.showsLastWrite steps) same.serviceMode
  path := (keepsWrites_path.showsLastWrite steps').eq_of_same
    (keepsWrites_path.showsLastWrite steps) same.path
  agent := (keepsWrites_userAgent.showsLastWrite steps').eq_of_same
    (keepsWrites_userAgent.showsLastWrite steps) same.userAgent
  token := ((keepsWrites_param settings.tokenParam).showsLastWrite steps').eq_of_same
    ((keepsWrites_param settings.tokenParam).showsLastWrite steps) same.param }

/-- What a request tells about itself is what was written last since it was last reset, and the
default where nothing was. So sequences with the same last writes build requests that no classifier
tells apart, whatever was overwritten and in whatever order; it is enough that they agree in the one
parameter that the classifier is set to ask for. -/
theorem ofSteps_tells_last_writes (steps : List Step) :
    ShowsLastWrite Step.serviceMode id false steps
      (RequestEnvironment.serviceMode (ofSteps steps)) ∧
    ShowsLastWrite Step.path id [] steps (RequestEnvironment.path (ofSteps steps)) ∧
    ShowsLastWrite Step.userAgent id [] steps (RequestEnvironment.userAgent (ofSteps steps)) ∧
    (∀ name, ShowsLastWrite (Step.param name) some none steps
      (RequestEnvironment.param? (ofSteps steps) name)) ∧
    ∀ (settings : ClassifierSettings) (steps' : List Step),
      SameLastWrites settings.tokenParam steps steps' →
      settings.classify (ofSteps steps') = settings.classify (ofSteps steps) ∧
        settings.context (ofSteps steps') = settings.context (ofSteps steps) ∧
        RequestView.bind settings (ofSteps steps') = RequestView.bind settings (ofSteps steps) := by
  refine ⟨keepsWrites_serviceMode.showsLastWrite steps, keepsWrites_path.showsLastWrite steps,
    keepsWrites_userAgent.showsLastWrite steps,
    fun name => (keepsWrites_param name).showsLastWrite steps, ?_⟩
  intro settings steps' same
  have alike := same.seesSame
  exact ⟨alike.classify_eq, alike.context_eq, alike.bind_eq⟩

end Request

end ConditionalText
