import ConditionalText.Json.Reader
import ConditionalText.Json.Value
import ConditionalText.Request.Channel

/-!
Channels and request contexts in JSON.
-/

namespace ConditionalText

open Json

namespace ServiceSignal

def ofName? (name : Text) : Option ServiceSignal :=
  all.find? (fun signal => signal.name = name)

def ofName (name : Text) : Except JsonFault ServiceSignal :=
  match ofName? name with
  | some signal => .ok signal
  | none => .error .content

def ofNode : Node → Except JsonFault ServiceSignal :=
  Node.alternative ofName (fun name value => do
    let signal ← ofName name
    value.readUnit
    pure signal)

def toJson (signal : ServiceSignal) : Value :=
  .string signal.name

end ServiceSignal

namespace AccessChannel

def webName : Text := "web".toList
def serviceName : Text := "service".toList

def ofNode : Node → Except JsonFault AccessChannel :=
  Node.alternative
    (fun name => if name = webName then .ok .web else .error .content)
    (fun name value =>
      if name = webName then value.readUnit.map (fun _ => .web)
      else if name = serviceName then (ServiceSignal.ofNode value).map .service
      else .error .content)

def toJson : AccessChannel → Value
  | .web => .string webName
  | .service signal => .object [(serviceName, signal.toJson)]

end AccessChannel

namespace RequestContext

def isServiceName : Text := "isServiceAccess".toList
def userAgentName : Text := "userAgent".toList

def field (stated : Option Bool × Option Text) (name : Text) (value : Node) :
    Option (Except JsonFault (Option Bool × Option Text)) :=
  if name = isServiceName then
    some (if stated.1.isSome then .error .content
      else value.readBool.map (fun isService => (some isService, stated.2)))
  else if name = userAgentName then
    some (if stated.2.isSome then .error .content
      else value.readText.map (fun userAgent => (stated.1, some userAgent)))
  else none

/-- The channel must be stated; the user agent is empty unless it is. -/
def ofNode : Node → Except JsonFault RequestContext
  | .array items => do
      let (isService, items) ← items.take Node.readBool (.error .content)
      let (userAgent, items) ← items.take Node.readText (.ok [])
      items.finish
      pure ⟨isService, userAgent⟩
  | .object members => do
      let (isService, userAgent) ← members.fold field (none, none)
      match isService with
      | some isService => pure ⟨isService, userAgent.getD []⟩
      | none => .error .content
  | node => .error node.mismatch

def toJson (context : RequestContext) : Value :=
  .object [
    (isServiceName, .bool context.isService),
    (userAgentName, .string context.userAgent)]

end RequestContext

end ConditionalText
