import ConditionalText.Text.Basic

/-!
TOML documents as trees, and how statements add to them. How a table came about decides what may
still be added to it.
-/

namespace ConditionalText.Toml

inductive TableKind where
  | explicit
  | implicit
  | dotted
  | inline
  deriving Repr, DecidableEq

/-- A value or a table. The numbers and dates that no setting has are not told apart. -/
inductive Node where
  | string (value : Text)
  | integer (value : Int)
  | float
  | boolean (value : Bool)
  | datetime
  | array (items : List Node)
  | table (kind : TableKind) (entries : List (Text × Node))
  | tables (latestFirst : List Node)
  deriving Repr

abbrev Entries := List (Text × Node)

namespace Entries

def replace (entries : Entries) (key : Text) (node : Node) : Entries :=
  entries.map (fun entry => if entry.1 = key then (key, node) else entry)

def append (entries : Entries) (key : Text) (node : Node) : Entries :=
  entries ++ [(key, node)]

/-- Adds a value under a dotted key. The tables on the way may be new, dotted, or passed through,
but the one that receives the value must be new or dotted, and the last key must be new. -/
def assign (value : Node) : (path : List Text) → Entries → Option Entries
  | [], _ => none
  | [key], entries =>
      match entries.lookup key with
      | none => some (entries.append key value)
      | some _ => none
  | key :: next :: path, entries =>
      match entries.lookup key with
      | none => (assign value (next :: path) []).map
          (fun inner => entries.append key (.table .dotted inner))
      | some (.table .dotted inner) => (assign value (next :: path) inner).map
          (fun inner => entries.replace key (.table .dotted inner))
      | some (.table .implicit inner) =>
          if path.isEmpty then none
          else (assign value (next :: path) inner).map
            (fun inner => entries.replace key (.table .implicit inner))
      | some (.tables (.table kind inner :: older)) =>
          if path.isEmpty then none
          else (assign value (next :: path) inner).map
            (fun inner => entries.replace key (.tables (.table kind inner :: older)))
      | _ => none

def assignAll (values : List (List Text × Node)) (entries : Entries) : Option Entries :=
  values.foldlM (fun entries assignment => entries.assign assignment.2 assignment.1) entries

/-- Changes the table that a path leads to. Tables that are missing on the way come about. -/
def within (update : Entries → Option Entries) : (path : List Text) → Entries → Option Entries
  | [], entries => update entries
  | key :: path, entries =>
      match entries.lookup key with
      | none => (within update path []).map
          (fun inner => entries.append key (.table .implicit inner))
      | some (.table .inline _) => none
      | some (.table kind inner) => (within update path inner).map
          (fun inner => entries.replace key (.table kind inner))
      | some (.tables (.table kind inner :: older)) => (within update path inner).map
          (fun inner => entries.replace key (.tables (.table kind inner :: older)))
      | _ => none

/-- Opens a table by its header. It must be new, or only have been passed through so far. -/
def openTable (key : Text) (values : List (List Text × Node)) (entries : Entries) :
    Option Entries :=
  match entries.lookup key with
  | none => (assignAll values []).map (fun inner => entries.append key (.table .explicit inner))
  | some (.table .implicit inner) => (assignAll values inner).map
      (fun inner => entries.replace key (.table .explicit inner))
  | _ => none

def openNext (key : Text) (values : List (List Text × Node)) (entries : Entries) :
    Option Entries :=
  match entries.lookup key with
  | none => (assignAll values []).map
      (fun inner => entries.append key (.tables [.table .explicit inner]))
  | some (.tables older) => (assignAll values []).map
      (fun inner => entries.replace key (.tables (.table .explicit inner :: older)))
  | _ => none

end Entries

structure Section where
  path : List Text
  key : Text
  isSequence : Bool
  values : List (List Text × Node)

def Section.addTo (part : Section) (entries : Entries) : Option Entries :=
  entries.within
    (if part.isSequence then Entries.openNext part.key part.values
      else Entries.openTable part.key part.values) part.path

end ConditionalText.Toml
