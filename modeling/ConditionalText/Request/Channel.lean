import ConditionalText.Text.Basic

/-!
How a request reached the host, and what the filter needs to know of a request.
-/

namespace ConditionalText

/-- The evidence by which a request counts as service access. -/
inductive ServiceSignal where
  | serviceMode
  | tokenFileEndpoint
  | appFileEndpoint
  deriving Repr, DecidableEq

def ServiceSignal.name : ServiceSignal → Text
  | .serviceMode => "service_mode".toList
  | .tokenFileEndpoint => "token_file_endpoint".toList
  | .appFileEndpoint => "app_file_endpoint".toList

def ServiceSignal.all : List ServiceSignal :=
  [.serviceMode, .tokenFileEndpoint, .appFileEndpoint]

/-- Ordinary browsing, or service access with the signal that decided it. -/
inductive AccessChannel where
  | web
  | service (signal : ServiceSignal)
  deriving Repr, DecidableEq, Inhabited

namespace AccessChannel

def isService : AccessChannel → Bool
  | .web => false
  | .service _ => true

def signal? : AccessChannel → Option ServiceSignal
  | .web => none
  | .service signal => some signal

end AccessChannel

def channelName (isService : Bool) : Text :=
  if isService then "ws".toList else "web".toList

structure RequestContext where
  isService : Bool
  userAgent : Text
  deriving Repr, DecidableEq

namespace RequestContext

def web (userAgent : Text) : RequestContext := ⟨false, userAgent⟩
def service (userAgent : Text) : RequestContext := ⟨true, userAgent⟩

def ofChannel (channel : AccessChannel) (userAgent : Text) : RequestContext :=
  ⟨channel.isService, userAgent⟩

def channelName (context : RequestContext) : Text :=
  ConditionalText.channelName context.isService

end RequestContext

end ConditionalText
