import ConditionalText.Failure
import ConditionalText.Pattern.Marked
import ConditionalText.Pattern.Reader

/-!
Testing a user agent against the text of a pattern. What a pattern means is settled here; how many
bytes it takes once it is compiled is the business of the engine that runs it.
-/

namespace ConditionalText

/-- What an engine for patterns decides by itself: whether a pattern can be compiled within a number
of bytes, and how it words that it cannot use a pattern. -/
class PatternEngine where
  fits (pattern : Text) (limit : UInt64) : Bool
  describe (pattern : Text) (fault : PatternFault) : Text

variable [PatternEngine]

def Pattern.compile (text : Text) (sizeLimit : UInt64) : Except PatternFault Pattern :=
  match Pattern.ofText? text with
  | none => .error .malformed
  | some pattern =>
      if PatternEngine.fits text sizeLimit then .ok pattern
      else .error (.tooLarge sizeLimit.toNat)

def agentMatches (pattern userAgent : Text) (sizeLimit : UInt64) : Except FilterFailure Bool :=
  match Pattern.compile pattern sizeLimit with
  | .error fault => .error (.agentPattern pattern (PatternEngine.describe pattern fault))
  | .ok compiled => .ok (compiled.occursIn userAgent)

end ConditionalText
