import ConditionalText.Text.Basic

/-!
What can go wrong, as causes; the wording of each cause is its `message`. The libraries beneath word
their own refusals, and how they do it is left open.
-/

namespace ConditionalText

inductive PatternFault where
  | malformed
  | tooLarge (limit : Nat)
  deriving Repr, DecidableEq

/-- Where the reading of a JSON text failed: in its form, in its content, or at its end. -/
inductive JsonFault where
  | form
  | content
  | ended
  deriving Repr, DecidableEq

/-- Why something on the disk gives no text. What the system refuses has the system's number for the
cause. -/
inductive ReadFault where
  | directory
  | notText
  | refused (code : Nat)
  deriving Repr, DecidableEq

/-- How the libraries beneath word what they refuse: documents in one of the two formats, and things
on the disk. -/
class Wording where
  json (document : Text) (fault : JsonFault) : Text
  toml (document : Text) : Text
  unreadable (fault : ReadFault) : Text

inductive Failure where
  | configuration (text : Text)
  | invalidPattern (pattern text : Text)
  | patternEngine (text : Text)
  | inputTooLarge (length limit : Nat)
  | notFound (path : Text)
  | unreadable (fault : ReadFault)
  | json (document : Text) (fault : JsonFault)
  | toml (document : Text)
  deriving Repr, DecidableEq

namespace Failure

def message [Wording] : Failure → Text
  | .configuration text => "Configuration error: ".toList ++ text
  | .invalidPattern pattern text =>
      "Invalid pattern '".toList ++ pattern ++ "': ".toList ++ text
  | .patternEngine text => "Pattern engine error: ".toList ++ text
  | .inputTooLarge length limit =>
      "Input too large: ".toList ++ Text.ofNat length ++ " bytes (max ".toList ++
        Text.ofNat limit ++ ")".toList
  | .notFound path => "Not found: ".toList ++ path
  | .unreadable fault => "IO error: ".toList ++ Wording.unreadable fault
  | .json document fault => "JSON error: ".toList ++ Wording.json document fault
  | .toml document => "TOML error: ".toList ++ Wording.toml document

def isRecoverable : Failure → Bool
  | .invalidPattern _ _ | .patternEngine _ | .inputTooLarge _ _ => true
  | _ => false

def isUserFacing : Failure → Bool
  | .configuration _ | .notFound _ | .invalidPattern _ _ => true
  | _ => false

end Failure

inductive FilterFailure where
  | grammarUnavailable (text : Text)
  | agentPattern (pattern text : Text)
  | inputTooLarge (length limit : Nat)
  deriving Repr, DecidableEq

namespace FilterFailure

def message : FilterFailure → Text
  | .grammarUnavailable text => "Block grammar unavailable: ".toList ++ text
  | .agentPattern pattern text =>
      "Invalid user agent pattern '".toList ++ pattern ++ "': ".toList ++ text
  | .inputTooLarge length limit =>
      "Input of ".toList ++ Text.ofNat length ++ " bytes exceeds scan limit of ".toList ++
        Text.ofNat limit ++ " bytes".toList

def toFailure : FilterFailure → Failure
  | .grammarUnavailable text => .patternEngine text
  | .agentPattern pattern text => .invalidPattern pattern text
  | .inputTooLarge length limit => .inputTooLarge length limit

end FilterFailure

end ConditionalText
