import ConditionalText.Event
import ConditionalText.Marker.Block
import ConditionalText.Pattern.Agent
import ConditionalText.Settings.Basic

/-!
What becomes of a block for one request. Its body is shown when the condition admits the request
and the user agent matches the pattern, if one is given; a pattern that cannot be used matches
nobody.
-/

namespace ConditionalText

inductive Verdict where
  | shown
  | conditionRefused
  | agentMismatch (pattern : Text)
  | agentPatternInvalid (failure : FilterFailure)
  deriving Repr, DecidableEq

variable [PatternEngine]

/-- The pattern is not looked at when the condition refuses, and an empty one asks for nothing. -/
def Block.verdict (block : Block) (context : RequestContext) (sizeLimit : UInt64) : Verdict :=
  if !block.condition.admits context.isService then .conditionRefused
  else match block.agentPattern with
    | none | some [] => .shown
    | some (c :: pattern) =>
        match agentMatches (c :: pattern) context.userAgent sizeLimit with
        | .ok true => .shown
        | .ok false => .agentMismatch (c :: pattern)
        | .error failure => .agentPatternInvalid failure

namespace Verdict

def replacement (verdict : Verdict) (body : Text) : Text :=
  match verdict with
  | .shown => body
  | _ => []

def event? (verdict : Verdict) (condition : Condition) (isService : Bool) : Option Event :=
  match verdict with
  | .shown => none
  | .conditionRefused => some (.blockSuppressed condition isService)
  | .agentMismatch pattern => some (.agentMismatch pattern)
  | .agentPatternInvalid failure => some (.agentPatternInvalid failure)

end Verdict

namespace Block

def replacement (context : RequestContext) (sizeLimit : UInt64) (block : Block) : Text :=
  (block.verdict context sizeLimit).replacement block.body

def event? (context : RequestContext) (sizeLimit : UInt64) (block : Block) : Option Event :=
  (block.verdict context sizeLimit).event? block.condition context.isService

def evaluate (block : Block) (context : RequestContext) (sizeLimit : UInt64) : Reported Text :=
  ⟨block.replacement context sizeLimit, (block.event? context sizeLimit).toList⟩

end Block

def evaluate (token : Text) (agentPattern : Option Text) (body : Text) (context : RequestContext) :
    Reported Text :=
  Block.evaluate ⟨.ofToken token, agentPattern, body⟩ context defaultPatternSizeLimit

end ConditionalText
