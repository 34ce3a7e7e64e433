import ConditionalText.Proofs.Rewriting
import ConditionalText.Request.Classifier

/-!
From a request to the document that its reader sees. There are three ways to tell the filter about
a request, and all three come to the same. The filter learns two things of it: the user agent, and
whether there is any evidence of service access. Which evidence it was does not matter.
-/

namespace ConditionalText

open RequestEnvironment (serviceMode path param? userAgent)

namespace Text

theorem contains_iff_infix {text needle : Text} : text.contains needle = true ↔ needle <:+: text := by
  rw [contains_iff]
  constructor
  · rintro ⟨before, after, split⟩
    exact ⟨before, after, split.symm⟩
  · rintro ⟨before, after, split⟩
    exact ⟨before, after, split.symm⟩

theorem lowerChar_ne_nil (c : Char) : lowerChar c ≠ [] := by
  unfold lowerChar
  split <;> simp

theorem lower_eq_nil_iff {text : Text} : text.lower = [] ↔ text = [] := by
  cases text with
  | nil => simp [lower, lowerAfter]
  | cons c rest =>
      have filled := lowerChar_ne_nil c
      simp only [lower, lowerAfter, List.append_eq_nil_iff, reduceCtorEq, iff_false, not_and]
      intro empty
      split at empty
      · cases empty
      · exact absurd empty filled

end Text

theorem reachesEndpoint_iff {endpoint path : Text} :
    reachesEndpoint endpoint path = true ↔ endpoint ≠ [] ∧ endpoint <:+: path := by
  rw [reachesEndpoint, Bool.and_eq_true, Text.contains_iff_infix]
  simp

theorem isAppAgent_iff {marker userAgent : Text} :
    isAppAgent marker userAgent = true ↔ marker ≠ [] ∧ marker.lower <:+: userAgent.lower := by
  have filled : (!marker.lower.isEmpty) = true ↔ marker ≠ [] := by
    simp [Text.lower_eq_nil_iff]
  rw [isAppAgent, Bool.and_eq_true, Text.contains_iff_infix, filled]

namespace ClassifierSettings

variable {Host : Type} [RequestEnvironment Host] (settings : ClassifierSettings) (request : Host)

/-- The whole process serves calls, or a token comes to the token endpoint, or the companion app
comes to its endpoint. -/
def ServiceEvidence : Prop :=
  serviceMode request = true ∨
  (settings.tokenFileEndpoint ≠ [] ∧ settings.tokenFileEndpoint <:+: path request ∧
    ∃ token, param? request settings.tokenParam = some token ∧
      ∃ c ∈ token, isAsciiAlphanumeric c = true) ∨
  (settings.appFileEndpoint ≠ [] ∧ settings.appFileEndpoint <:+: path request ∧
    settings.appAgentMarker ≠ [] ∧ settings.appAgentMarker.lower <:+: (userAgent request).lower)

theorem isTokenFileRequest_iff :
    settings.isTokenFileRequest request = true ↔
      settings.tokenFileEndpoint ≠ [] ∧ settings.tokenFileEndpoint <:+: path request ∧
        ∃ token, param? request settings.tokenParam = some token ∧
          ∃ c ∈ token, isAsciiAlphanumeric c = true := by
  rw [isTokenFileRequest, Bool.and_eq_true, reachesEndpoint_iff, and_assoc]
  cases param? request settings.tokenParam with
  | none => simp
  | some token => simp

theorem isAppFileRequest_iff :
    settings.isAppFileRequest request = true ↔
      settings.appFileEndpoint ≠ [] ∧ settings.appFileEndpoint <:+: path request ∧
        settings.appAgentMarker ≠ [] ∧
          settings.appAgentMarker.lower <:+: (userAgent request).lower := by
  rw [isAppFileRequest, Bool.and_eq_true, reachesEndpoint_iff, isAppAgent_iff, and_assoc]

theorem channel_isService_iff :
    (settings.channel request).isService = true ↔ settings.ServiceEvidence request := by
  rw [ServiceEvidence, ← isTokenFileRequest_iff, ← isAppFileRequest_iff, channel]
  by_cases inMode : serviceMode request = true
  · simp [inMode, AccessChannel.isService]
  · by_cases byToken : settings.isTokenFileRequest request = true
    · simp [inMode, byToken, AccessChannel.isService]
    · by_cases byApp : settings.isAppFileRequest request = true
      · simp [inMode, byToken, byApp, AccessChannel.isService]
      · simp [inMode, byToken, byApp, AccessChannel.isService]

theorem context_isService_iff :
    (settings.context request).value.isService = true ↔ settings.ServiceEvidence request :=
  settings.channel_isService_iff request

/-- A host that is asked for both attributes one by one tells, and reports, the same. -/
theorem capture_bind :
    (RequestView.bind settings request).capture = settings.context request := by
  have reported :
      (RequestView.bind settings request).capture.events =
        (settings.context request).events := by
    simp [RequestView.capture, RequestView.bind, isServiceAccess, context]
  exact congrArg (Reported.mk (settings.context request).value) reported

theorem context_value_eq {Host' : Type} [RequestEnvironment Host'] {request' : Host'}
    (sameEvidence : settings.ServiceEvidence request' ↔ settings.ServiceEvidence request)
    (sameAgent : userAgent request' = userAgent request) :
    (settings.context request').value = (settings.context request).value := by
  have sameChannel :
      (settings.channel request').isService = (settings.channel request).isService := by
    rw [Bool.eq_iff_iff, channel_isService_iff, channel_isService_iff]
    exact sameEvidence
  exact congrArg₂ RequestContext.mk sameChannel sameAgent

end ClassifierSettings

namespace Block

theorem replacement_of_agentPattern_eq_none [PatternEngine] {block : Block}
    {context : RequestContext} {sizeLimit : UInt64} (unpatterned : block.agentPattern = none) :
    block.replacement context sizeLimit =
      if block.condition.admits context.isService then block.body else [] := by
  rw [replacement, verdict, unpatterned]
  cases block.condition.admits context.isService with
  | true => rfl
  | false => rfl

end Block

namespace FilterSettings

section

variable [PatternEngine] {Host : Type} [RequestEnvironment Host]

theorem replacement_by_evidence (settings : FilterSettings) (request : Host) {block : Block}
    (unpatterned : block.agentPattern = none) :
    let shown := block.replacement (settings.classifier.context request).value
      settings.patternSizeLimit
    (block.condition = .service →
      (settings.classifier.ServiceEvidence request → shown = block.body) ∧
        (¬ settings.classifier.ServiceEvidence request → shown = [])) ∧
    (block.condition = .web →
      (settings.classifier.ServiceEvidence request → shown = []) ∧
        (¬ settings.classifier.ServiceEvidence request → shown = block.body)) := by
  intro shown
  have byCondition : shown =
      if block.condition.admits (settings.classifier.context request).value.isService then
        block.body else [] :=
    Block.replacement_of_agentPattern_eq_none unpatterned
  rw [← settings.classifier.context_isService_iff request, byCondition]
  cases (settings.classifier.context request).value.isService with
  | true =>
      constructor
      · intro forService
        simp [forService, Condition.admits]
      · intro forWeb
        simp [forWeb, Condition.admits]
  | false =>
      constructor
      · intro forService
        simp [forService, Condition.admits]
      · intro forWeb
        simp [forWeb, Condition.admits]

/-- The three ways to tell the filter about a request give one outcome. In it the blocks for service
access stand open, and those for browsers are gone, exactly if the request gives some evidence of
service access; a block with a pattern may still be hidden from the user agent. Of two requests
alike in this evidence and in their user agent, each sees of every document what the other sees. -/
theorem filter_request (settings : FilterSettings) (request : Host) (text : Text)
    (unlimited : settings.maxInputBytes = none) :
    let context := (settings.classifier.context request).value
    let evidence := settings.classifier.ServiceEvidence request
    let shown := fun block : Block => (block.evaluate context settings.patternSizeLimit).value
    (settings.filter (RequestView.bind settings.classifier request).capture.value text =
        settings.filter context text ∧
      settings.filter
          (.ofChannel (settings.classifier.classify request).value (userAgent request)) text =
        settings.filter context text) ∧
    (Document.Spliced shown 0 (Document.blocks text) text
        ((settings.filter context text).value.text text) ∧
      ∀ block ∈ Document.blocks text, block.agentPattern = none →
        (block.condition = .service →
          (evidence → shown block.toBlock = block.body) ∧ (¬ evidence → shown block.toBlock = [])) ∧
        (block.condition = .web →
          (evidence → shown block.toBlock = []) ∧
            (¬ evidence → shown block.toBlock = block.body))) ∧
    ∀ {Host' : Type} [RequestEnvironment Host'] (request' : Host'),
      (settings.classifier.ServiceEvidence request' ↔ evidence) →
      userAgent request' = userAgent request →
      settings.filter (settings.classifier.context request').value text =
        settings.filter context text := by
  intro context evidence shown
  refine ⟨⟨?_, rfl⟩, ⟨?_, ?_⟩, ?_⟩
  · rw [ClassifierSettings.capture_bind]
  · have accepted := accepts_of_maxInputBytes_eq_none unlimited text
    rw [filter_text_of_accepts context accepted, Document.blocks_eq_scan]
    exact Document.spliced_scan (Block.replacement context settings.patternSizeLimit) text
  · intro block _ unpatterned
    exact settings.replacement_by_evidence request unpatterned
  · intro Host' _ request' sameEvidence sameAgent
    rw [settings.classifier.context_value_eq request sameEvidence sameAgent]

end

/-- The token has no letter or digit, but the agent is the app's, in other letters than the
marker's. -/
theorem filter_request_of_app :
    let _engine : PatternEngine := .estimating (fun _ => "regex parse error".toList)
    let settings : FilterSettings := {}
    let request : Request := {
      path := "/tokenpluginfile.php/1/a".toList
      params := [("token".toList, "--".toList)]
      userAgent := "MOODLEmobile/4".toList }
    let text : Text := "\x7bfws web\x7dA\x7bfws\x7d\u00e4\x7bfws ws\x7dB\x7bfws\x7d".toList
    let context := (settings.classifier.context request).value
    let evidence := settings.classifier.ServiceEvidence request
    let shown := fun block : Block => (block.evaluate context settings.patternSizeLimit).value
    settings.maxInputBytes = none ∧
    (settings.filter (RequestView.bind settings.classifier request).capture.value text =
        settings.filter context text ∧
      settings.filter
          (.ofChannel (settings.classifier.classify request).value (userAgent request)) text =
        settings.filter context text) ∧
    (Document.Spliced shown 0 (Document.blocks text) text
        ((settings.filter context text).value.text text) ∧
      ∀ block ∈ Document.blocks text, block.agentPattern = none →
        (block.condition = .service →
          (evidence → shown block.toBlock = block.body) ∧ (¬ evidence → shown block.toBlock = [])) ∧
        (block.condition = .web →
          (evidence → shown block.toBlock = []) ∧
            (¬ evidence → shown block.toBlock = block.body))) ∧
    ∀ {Host' : Type} [RequestEnvironment Host'] (request' : Host'),
      (settings.classifier.ServiceEvidence request' ↔ evidence) →
      userAgent request' = userAgent request →
      settings.filter (settings.classifier.context request').value text =
        settings.filter context text := by
  intro _engine
  exact ⟨rfl, filter_request {} _ _ rfl⟩

end FilterSettings

end ConditionalText
