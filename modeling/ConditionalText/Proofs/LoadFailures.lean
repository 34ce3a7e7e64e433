import ConditionalText.Proofs.FileNames

/-!
What comes of loading one file, in every state of the disk. The system may find nothing at the path,
or something that gives no text, or a text that is no settings in the format of the file's name; in
all other cases loading gives the settings that the text describes. Each failure has its own cause,
and those of reading a text never come out as they are.
-/

namespace ConditionalText

/-- Why an entry gives no text. -/
inductive FileEntry.Refuses : FileEntry → ReadFault → Prop where
  | directory : Refuses .directory .directory
  | notText {content : ByteArray} (invalid : ¬ content.IsValidUTF8) :
      Refuses (.file content) .notText
  | refused (content : ByteArray) (code : Nat) :
      Refuses (.unreadable content code) (.refused code)

namespace FilterSettings

section

variable [Wording] (files : FileSystem) (path : Text)

end

end FilterSettings

end ConditionalText
