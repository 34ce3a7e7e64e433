import ConditionalText.Failure
import ConditionalText.Marker.Condition
import ConditionalText.Request.Channel
import ConditionalText.Text.Quoted

/-!
The events that the library reports while it works, and results that carry them.
-/

namespace ConditionalText

inductive Level where
  | trace
  | debug
  | info
  | warn
  deriving Repr, DecidableEq

def Level.name : Level → Text
  | .trace => "TRACE".toList
  | .debug => "DEBUG".toList
  | .info => "INFO".toList
  | .warn => "WARN".toList

inductive Event where
  | noMarker
  | blockSuppressed (condition : Condition) (isService : Bool)
  | agentMismatch (pattern : Text)
  | agentPatternInvalid (failure : FilterFailure)
  | filtered (blocks : Nat) (isService : Bool) (inputBytes outputBytes : Nat)
  | scanAbandoned (failure : FilterFailure)
  | serviceAccess (signal : ServiceSignal) (path : Text)
  | settingsFileRead (path tokenFileEndpoint : Text) (maxInputBytes : Option Nat)
  | layerLoaded (description path : Text)
  | layerRejected (path : Text) (failure : Failure)
  deriving Repr, DecidableEq

namespace Event

def level : Event → Level
  | .noMarker => .trace
  | .blockSuppressed _ _ | .agentMismatch _ | .filtered _ _ _ _ | .serviceAccess _ _
  | .settingsFileRead _ _ _ => .debug
  | .layerLoaded _ _ => .info
  | .agentPatternInvalid _ | .scanAbandoned _ | .layerRejected _ _ => .warn

def optionalNumber : Option Nat → Text
  | none => "None".toList
  | some n => "Some(".toList ++ Text.ofNat n ++ ")".toList

def message [Wording] : Event → Text
  | .noMarker => "No block marker, skipping scan".toList
  | .blockSuppressed condition isService =>
      "Suppressed '".toList ++ condition.word ++ "' block for ".toList ++
        channelName isService ++ " request".toList
  | .agentMismatch pattern =>
      "User agent does not match '".toList ++ pattern ++ "', block suppressed".toList
  | .agentPatternInvalid failure => failure.message
  | .filtered blocks isService inputBytes outputBytes =>
      "Filtered ".toList ++ Text.ofNat blocks ++ " block(s) for ".toList ++
        channelName isService ++ " request (".toList ++ Text.ofNat inputBytes ++
        " -> ".toList ++ Text.ofNat outputBytes ++ " bytes)".toList
  | .scanAbandoned failure =>
      "Block scan abandoned, keeping original text: ".toList ++ failure.message
  | .serviceAccess signal path =>
      "Service access via ".toList ++ signal.name ++ " for path '".toList ++ path ++ "'".toList
  | .settingsFileRead path tokenFileEndpoint maxInputBytes =>
      "Loaded settings from ".toList ++ path ++ ": token endpoint ".toList ++
        Text.quoted tokenFileEndpoint ++ ", max input ".toList ++ optionalNumber maxInputBytes
  | .layerLoaded description path =>
      "Loaded ".toList ++ description ++ " from: ".toList ++ path
  | .layerRejected path failure =>
      "Failed to load settings from ".toList ++ path ++ ": ".toList ++ failure.message

end Event

/-- A result with the events reported on the way to it, oldest first. -/
structure Reported (α : Type) where
  value : α
  events : List Event
  deriving Repr, DecidableEq

namespace Reported

def andThen {α β : Type} (first : Reported α) (next : α → Reported β) : Reported β :=
  let second := next first.value
  ⟨second.value, first.events ++ second.events⟩

instance : Monad Reported where
  pure value := ⟨value, []⟩
  bind := andThen

def report (event : Event) : Reported Unit :=
  ⟨(), [event]⟩

section

variable {α β : Type} (first : Reported α) (next : α → Reported β)

@[simp] theorem pure_value (value : α) : (pure value : Reported α).value = value := rfl

@[simp] theorem pure_events (value : α) : (pure value : Reported α).events = [] := rfl

@[simp] theorem bind_value : (first >>= next).value = (next first.value).value := rfl

@[simp] theorem bind_events :
    (first >>= next).events = first.events ++ (next first.value).events := rfl

end

section

variable {α β : Type}

theorem foldlM_value (step : β → α → Reported β) (items : List α) (base : β) :
    (items.foldlM step base).value =
      items.foldl (fun state item => (step state item).value) base := by
  induction items generalizing base with
  | nil => rfl
  | cons item items ih =>
      rw [List.foldlM_cons, bind_value, ih, List.foldl_cons]

/-- When what a step reports does not depend on the state, neither does what a run reports. -/
theorem foldlM_events {step : β → α → Reported β} {report : α → List Event}
    (reports : ∀ state item, (step state item).events = report item) (items : List α) (base : β) :
    (items.foldlM step base).events = items.flatMap report := by
  induction items generalizing base with
  | nil => rfl
  | cons item items ih =>
      rw [List.foldlM_cons, bind_events, reports, ih, List.flatMap_cons]

end

end Reported

end ConditionalText
