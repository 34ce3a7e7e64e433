import ConditionalText.Proofs.LowerCase
import ConditionalText.Proofs.RequestRoutes

/-!
More evidence never weakens a decision. If everything that one request shows of service access is
also shown by another, then the signal that decides about the other is tried at least as early. The
user agent needs care: the marker is looked for in lower case, and what the lower case of a part of
the user agent looks like can depend on what stands around it.
-/

namespace ConditionalText

open RequestEnvironment (serviceMode path param? userAgent)

/-- How early the signal of a channel is tried; browsing is what is left when all have failed. -/
def AccessChannel.priority : AccessChannel → Nat
  | .service .serviceMode => 3
  | .service .tokenFileEndpoint => 2
  | .service .appFileEndpoint => 1
  | .web => 0

theorem AccessChannel.isService_iff_priority {channel : AccessChannel} :
    channel.isService = true ↔ 0 < channel.priority := by
  cases channel with
  | web => decide
  | service signal => cases signal <;> decide

theorem reachesEndpoint_of_longer {endpoint path path' : Text} (longer : path <:+: path')
    (reached : reachesEndpoint endpoint path = true) : reachesEndpoint endpoint path' = true := by
  rw [reachesEndpoint_iff] at reached ⊢
  exact ⟨reached.1, reached.2.trans longer⟩

/-- A marker in ASCII that is found in a user agent is found in every longer one. -/
theorem isAppAgent_of_longer {marker agent agent' : Text} (ascii : ∀ c ∈ marker, c.toNat < 128)
    (longer : agent <:+: agent') (recognised : isAppAgent marker agent = true) :
    isAppAgent marker agent' = true := by
  rw [isAppAgent_iff] at recognised ⊢
  exact ⟨recognised.1, Text.infix_lower_of_infix (Text.not_isSmallSigma_of_mem_lower ascii)
    recognised.2 longer⟩

namespace ClassifierSettings

variable {Host Host' : Type} [RequestEnvironment Host] [RequestEnvironment Host']

/-- The second request shows all that the first one shows. -/
structure EvidenceWithin (settings : ClassifierSettings) (request : Host) (request' : Host') :
    Prop where
  mode : serviceMode request = true → serviceMode request' = true
  path : path request <:+: path request'
  agent : userAgent request <:+: userAgent request'
  token : ∀ token, param? request settings.tokenParam = some token →
    ∃ token', param? request' settings.tokenParam = some token' ∧ token.Sublist token'

section

variable {settings : ClassifierSettings} {request : Host} {request' : Host'}

theorem EvidenceWithin.isTokenFileRequest (within : settings.EvidenceWithin request request')
    (given : settings.isTokenFileRequest request = true) :
    settings.isTokenFileRequest request' = true := by
  rw [isTokenFileRequest_iff] at given ⊢
  obtain ⟨filled, reached, token, stated, c, member, alphanumeric⟩ := given
  obtain ⟨token', stated', sublist⟩ := within.token token stated
  exact ⟨filled, reached.trans within.path, token', stated', c, sublist.mem member, alphanumeric⟩

theorem EvidenceWithin.isAppFileRequest (within : settings.EvidenceWithin request request')
    (ascii : ∀ c ∈ settings.appAgentMarker, c.toNat < 128)
    (given : settings.isAppFileRequest request = true) :
    settings.isAppFileRequest request' = true := by
  rw [ClassifierSettings.isAppFileRequest, Bool.and_eq_true] at given ⊢
  exact ⟨reachesEndpoint_of_longer within.path given.1,
    isAppAgent_of_longer ascii within.agent given.2⟩

/-! What a signal that the request gives makes of its channel -/

theorem priority_channel_of_mode (given : serviceMode request = true) :
    (settings.channel request).priority = 3 := by
  rw [channel, if_pos given]
  rfl

theorem le_priority_channel_of_token (given : settings.isTokenFileRequest request = true) :
    2 ≤ (settings.channel request).priority := by
  rw [channel, if_pos given]
  split <;> decide

theorem le_priority_channel_of_app (given : settings.isAppFileRequest request = true) :
    1 ≤ (settings.channel request).priority := by
  rw [channel, if_pos given]
  split
  · decide
  · split <;> decide

theorem priority_channel_le (within : settings.EvidenceWithin request request')
    (ascii : ∀ c ∈ settings.appAgentMarker, c.toNat < 128) :
    (settings.channel request).priority ≤ (settings.channel request').priority := by
  by_cases byMode : serviceMode request = true
  · rw [priority_channel_of_mode byMode, priority_channel_of_mode (within.mode byMode)]
  · by_cases byToken : settings.isTokenFileRequest request = true
    · have decided : settings.channel request = .service .tokenFileEndpoint := by
        rw [channel, if_neg byMode, if_pos byToken]
      rw [decided]
      exact le_priority_channel_of_token (within.isTokenFileRequest byToken)
    · by_cases byApp : settings.isAppFileRequest request = true
      · have decided : settings.channel request = .service .appFileEndpoint := by
          rw [channel, if_neg byMode, if_neg byToken, if_pos byApp]
        rw [decided]
        exact le_priority_channel_of_app (within.isAppFileRequest ascii byApp)
      · have decided : settings.channel request = .web := by
          rw [channel, if_neg byMode, if_neg byToken, if_neg byApp]
        rw [decided]
        exact Nat.zero_le _

end

/-- Adding evidence moves the deciding signal forward or leaves it in its place, so what counts as
service access goes on to do so. The marker has to be in ASCII: other letters can have a lower case
that depends on their neighbours. -/
theorem classify_monotone (settings : ClassifierSettings) (request : Host) (request' : Host')
    (ascii : ∀ c ∈ settings.appAgentMarker, c.toNat < 128)
    (within : settings.EvidenceWithin request request') :
    (settings.classify request).value.priority ≤ (settings.classify request').value.priority ∧
      ((settings.isServiceAccess request).value = true →
        (settings.isServiceAccess request').value = true) := by
  have ordered := priority_channel_le within ascii
  refine ⟨ordered, ?_⟩
  intro service
  have positive := AccessChannel.isService_iff_priority.mp service
  exact AccessChannel.isService_iff_priority.mpr (Nat.lt_of_lt_of_le positive ordered)

/-- The endpoint, the token and the user agent all grow, the last between two sigmas. -/
theorem classify_monotone_between_sigmas :
    let settings : ClassifierSettings := {}
    let request : Request := {
      path := "/tokenpluginfile.php/1".toList
      params := [("token".toList, "-".toList)]
      userAgent := "moodleMOBILE".toList }
    let request' : Request := {
      path := "/webservice/pluginfile.php/tokenpluginfile.php/12".toList
      params := [("token".toList, "a-b".toList)]
      userAgent := "\u03a3moodleMOBILE\u03a3".toList }
    (∀ c ∈ settings.appAgentMarker, c.toNat < 128) ∧ settings.EvidenceWithin request request' ∧
      (settings.classify request).value.priority ≤ (settings.classify request').value.priority ∧
        ((settings.isServiceAccess request).value = true →
          (settings.isServiceAccess request').value = true) := by
  intro settings request request'
  have ascii : ∀ c ∈ settings.appAgentMarker, c.toNat < 128 := by
    simp [settings]
  have within : settings.EvidenceWithin request request' := {
    mode := fun served => absurd served Bool.false_ne_true
    path := ⟨"/webservice/pluginfile.php".toList, "2".toList, by decide⟩
    agent := ⟨['\u03a3'], ['\u03a3'], by decide⟩
    token := by
      intro token stated
      refine ⟨"a-b".toList, by decide, ?_⟩
      have same : token = "-".toList := by
        simpa [request, settings, RequestEnvironment.param?, Request.param?, List.lookup, eq_comm]
          using stated
      rw [same]
      decide }
  exact ⟨ascii, within, classify_monotone settings request request' ascii within⟩

end ClassifierSettings

end ConditionalText
