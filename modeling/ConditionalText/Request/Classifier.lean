import ConditionalText.Event
import ConditionalText.Request.Snapshot
import ConditionalText.Settings.Basic
import ConditionalText.Text.Lower

/-!
Telling service access from browsing. Three signals are tried in order, and the first that the
request gives decides.
-/

namespace ConditionalText

/-- Whether a user agent is the companion app's; an empty marker recognises nobody. -/
def isAppAgent (marker userAgent : Text) : Bool :=
  let wanted := marker.lower
  !wanted.isEmpty && userAgent.lower.contains wanted

/-- Whether the path goes through the endpoint; an empty endpoint is switched off. -/
def reachesEndpoint (endpoint path : Text) : Bool :=
  !endpoint.isEmpty && path.contains endpoint

section

open RequestEnvironment (serviceMode path param? userAgent)

variable {Host : Type} [RequestEnvironment Host]

namespace ClassifierSettings

/-- A token counts when an ASCII letter or digit is in it. -/
def isTokenFileRequest (settings : ClassifierSettings) (request : Host) : Bool :=
  reachesEndpoint settings.tokenFileEndpoint (path request) &&
    ((param? request settings.tokenParam).map (·.any isAsciiAlphanumeric)).getD false

def isAppFileRequest (settings : ClassifierSettings) (request : Host) : Bool :=
  reachesEndpoint settings.appFileEndpoint (path request) &&
    isAppAgent settings.appAgentMarker (userAgent request)

def channel (settings : ClassifierSettings) (request : Host) : AccessChannel :=
  if serviceMode request then .service .serviceMode
  else if settings.isTokenFileRequest request then .service .tokenFileEndpoint
  else if settings.isAppFileRequest request then .service .appFileEndpoint
  else .web

def classify (settings : ClassifierSettings) (request : Host) : Reported AccessChannel :=
  let channel := settings.channel request
  ⟨channel, channel.signal?.toList.map (.serviceAccess · (path request))⟩

def isServiceAccess (settings : ClassifierSettings) (request : Host) : Reported Bool := do
  return (← settings.classify request).isService

def context (settings : ClassifierSettings) (request : Host) : Reported RequestContext := do
  return .ofChannel (← settings.classify request) (userAgent request)

end ClassifierSettings

structure RequestView where
  isServiceAccess : Reported Bool
  userAgent : Text

namespace RequestView

def bind (settings : ClassifierSettings) (request : Host) : RequestView :=
  ⟨settings.isServiceAccess request, RequestEnvironment.userAgent request⟩

def capture (view : RequestView) : Reported RequestContext := do
  return ⟨← view.isServiceAccess, view.userAgent⟩

end RequestView

end

end ConditionalText
