import ConditionalText.Filter
import ConditionalText.Pattern.Footprint
import ConditionalText.Proofs.AppMarker
import ConditionalText.Proofs.CaseBlindness
import ConditionalText.Proofs.Convergence
import ConditionalText.Proofs.DocumentLaw
import ConditionalText.Proofs.EventLog
import ConditionalText.Proofs.FileNames
import ConditionalText.Proofs.HiddenBody
import ConditionalText.Proofs.JsonObjects
import ConditionalText.Proofs.JsonRoundTrip
import ConditionalText.Proofs.LastStatement
import ConditionalText.Proofs.LastWrites
import ConditionalText.Proofs.Layering
import ConditionalText.Proofs.LeftmostReading
import ConditionalText.Proofs.LoadFailures
import ConditionalText.Proofs.Locality
import ConditionalText.Proofs.MoreEvidence
import ConditionalText.Proofs.OverlayLaws
import ConditionalText.Proofs.PatternOccurrence
import ConditionalText.Proofs.QuickTest
import ConditionalText.Proofs.Refusal
import ConditionalText.Proofs.RequestRoutes
import ConditionalText.Proofs.SettingsFormats
import ConditionalText.Proofs.SettingsObjects
import ConditionalText.Proofs.Shortening
import ConditionalText.Proofs.Spans
import ConditionalText.Proofs.Unambiguity
import ConditionalText.Proofs.VerbatimPatterns
import ConditionalText.Request.Classifier
import ConditionalText.Request.Json
import ConditionalText.Settings.Layers
