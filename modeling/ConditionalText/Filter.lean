import ConditionalText.Marker.Verdict
import ConditionalText.Settings.Basic

/-!
Filtering documents: every block gives way to what its verdict leaves of it, and all other text
stays as it is. A document without blocks is not touched.
-/

namespace ConditionalText

inductive Outcome where
  | kept
  | rewritten (text : Text)
  deriving Repr, DecidableEq

def Outcome.text (outcome : Outcome) (original : Text) : Text :=
  match outcome with
  | .kept => original
  | .rewritten text => text

structure Progress where
  output : Text := []
  /-- The byte of the document up to which all has been copied or replaced. -/
  position : Nat := 0
  replaced : Nat := 0
  deriving Repr, DecidableEq

variable [PatternEngine]

namespace FilterSettings

def exceededLimit? (settings : FilterSettings) (text : Text) : Option Nat :=
  settings.maxInputBytes.bind (fun limit =>
    if text.utf8Length > limit.toNat then some limit.toNat else none)

def replaceBlock (settings : FilterSettings) (context : RequestContext) (text : Text)
    (progress : Progress) (block : PlacedBlock) : Reported Progress := do
  let shown ← block.evaluate context settings.patternSizeLimit
  return {
    output := progress.output ++ (text.slice progress.position block.start ++ shown)
    position := block.stop
    replaced := progress.replaced + 1 }

def rewrite (settings : FilterSettings) (context : RequestContext) (text : Text) :
    Reported Outcome := do
  let progress ← (Document.scan text).foldlM (settings.replaceBlock context text) {}
  if progress.replaced = 0 then return .kept
  else
    let output := progress.output ++ text.dropBytes progress.position
    Reported.report
      (.filtered progress.replaced context.isService text.utf8Length output.utf8Length)
    return .rewritten output

/-- Filters a document, or says why it cannot be scanned. The size of a document without markers
does not matter. -/
def tryFilter (settings : FilterSettings) (context : RequestContext) (text : Text) :
    Reported (Except FilterFailure Outcome) :=
  if !Marker.mayContain text then ⟨.ok .kept, [.noMarker]⟩
  else match settings.exceededLimit? text with
    | some limit => ⟨.error (.inputTooLarge text.utf8Length limit), []⟩
    | none =>
        let rewritten := settings.rewrite context text
        ⟨.ok rewritten.value, rewritten.events⟩

def filter (settings : FilterSettings) (context : RequestContext) (text : Text) :
    Reported Outcome :=
  let tried := settings.tryFilter context text
  match tried.value with
  | .ok outcome => ⟨outcome, tried.events⟩
  | .error failure => ⟨.kept, tried.events ++ [.scanAbandoned failure]⟩

end FilterSettings

def filter (context : RequestContext) (text : Text) : Reported Text :=
  let filtered := ({} : FilterSettings).filter context text
  ⟨filtered.value.text text, filtered.events⟩

/-- Filters a document once for each context, each time what the time before left of it. -/
def filterRepeatedly (contexts : List RequestContext) (text : Text) : List (Reported Text) :=
  match contexts with
  | [] => []
  | context :: others =>
      let filtered := filter context text
      filtered :: filterRepeatedly others filtered.value

end ConditionalText
