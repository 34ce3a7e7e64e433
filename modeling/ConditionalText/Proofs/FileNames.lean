import Mathlib.Data.List.TakeWhile
import ConditionalText.Proofs.BrokenFiles

/-!
The last name of a path and its extension, in terms of the path as it is written: names stand between
slashes, and behind the last one there may be more slashes and single dots. An extension follows the
last dot of a name and has something before that dot.
-/

namespace ConditionalText

namespace Path

end Path

/-- A name that only begins with a dot has no extension; one that begins with two has. -/
example : SettingsFormat.ofPath "a/.toml".toList = .json ∧
    SettingsFormat.ofPath "a/..TOML/./".toList = .toml := by decide

end ConditionalText
