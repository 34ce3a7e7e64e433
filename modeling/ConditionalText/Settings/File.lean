import ConditionalText.Failure

/-!
Files and paths, as far as loading settings needs them. A path is a text; names that a system may
have and that are no text are left out, and so are links.
-/

namespace ConditionalText

/-- What can stand on the disk. An unreadable file has content, but the system does not hand it over,
for a cause of which it has a number. -/
inductive FileEntry where
  | directory
  | file (content : ByteArray)
  | unreadable (content : ByteArray) (code : Nat)

/-- What stands at a list of names below the working directory. The list may begin with two dots for
each directory around that one, or with the name of the root. -/
abbrev FileSystem := List Text → Option FileEntry

namespace Path

def parts (path : Text) : List Text :=
  path.foldr
    (fun c parts =>
      if c = '/' then [] :: parts
      else match parts with
        | [] => [[c]]
        | part :: others => (c :: part) :: others)
    [[]]

/-- The most bytes of a path that the system takes. -/
def longest : Nat := 4095

def here : Text := ".".toList
def parent : Text := "..".toList
def root : Text := "/".toList

def isIdle (part : Text) : Bool :=
  part.isEmpty || part == here

def above : (names : List Text) → List Text
  | [] => [parent]
  | name :: outer =>
      if name = parent then parent :: name :: outer
      else if name = root then name :: outer
      else outer

def join (base path : Text) : Text :=
  if base.isEmpty || base.getLast? == some '/' then base ++ path
  else base ++ '/' :: path

def fileName? (path : Text) : Option Text :=
  match (parts path).reverse.dropWhile isIdle with
  | [] => none
  | name :: _ => if name = parent then none else some name

/-- What follows the last dot of a name, unless the name has no other dot than its first
character. -/
def extensionOfName? (name : Text) : Option Text :=
  match name.reverse.dropWhile (· != '.') with
  | _ :: _ :: _ => some (name.reverse.takeWhile (· != '.')).reverse
  | _ => none

def extension? (path : Text) : Option Text :=
  (fileName? path).bind extensionOfName?

end Path

namespace FileSystem

/-- The file system in which the given entries were created, first to last, along with the
directories around them. -/
def ofEntries (entries : List (List Text × FileEntry)) : FileSystem := fun names =>
  match entries.reverse.lookup names with
  | some entry => some entry
  | none =>
      if names.isEmpty || entries.any (fun entry => names.isPrefixOf entry.1) then some .directory
      else none

/-- Follows the parts of a path from the directory at `names`, which are given last first. Only a
directory has anything inside. -/
def follow (files : FileSystem) : (parts : List Text) → (names : List Text) → Option FileEntry
  | [], names => files names.reverse
  | part :: others, names =>
      match files names.reverse with
      | some .directory =>
          if Path.isIdle part then follow files others names
          else if part = Path.parent then follow files others (Path.above names)
          else follow files others (part :: names)
      | _ => none

def resolve? (files : FileSystem) (path : Text) : Option FileEntry :=
  match path with
  | [] => none
  | '/' :: _ => follow files (Path.parts path) [Path.root]
  | path => follow files (Path.parts path) []

def lookup? (files : FileSystem) (path : Text) : Option FileEntry :=
  if path.utf8Length ≤ Path.longest then files.resolve? path else none

def holds (files : FileSystem) (path : Text) : Bool :=
  (files.lookup? path).isSome

end FileSystem

def FileEntry.read : FileEntry → Except ReadFault Text
  | .directory => .error .directory
  | .unreadable _ code => .error (.refused code)
  | .file content =>
      match String.fromUTF8? content with
      | some text => .ok text.toList
      | none => .error .notText

end ConditionalText
