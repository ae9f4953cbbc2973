import RemotePlayback.Toml.Value

/-!
Tables of a TOML text while they are put together.

A table may be filled from several places of a text, but not from everywhere: what a header opened
is not opened again, what dotted keys made is added to by dotted keys alone, and a finished value is
not added to at all. So a table remembers how it came about.
-/

namespace RemotePlayback.Toml

/-- How a table came about. -/
inductive Origin where
  /-- A header names it. -/
  | headed
  /-- A header names a table inside it. -/
  | passed
  /-- The key of a pair leads through it. -/
  | dotted
  deriving DecidableEq, Inhabited

/-- A part of the tree. -/
inductive Node where
  | value (v : Value)
  | table (origin : Origin) (entries : List (String × Node))
  /-- A list of tables, each opened by a header of its own. -/
  | tables (items : List (List (String × Node)))
  deriving Inhabited

namespace Node

/-- The entries of a table. -/
abbrev Contents := List (String × Node)

/-- Applies a function to the last table of a list. -/
def onLast? (f : Contents → Option Contents) : List Contents → Option (List Contents)
  | [] => none
  | [t] => (f t).map ([·])
  | t :: ts => (onLast? f ts).map (t :: ·)

/-- Enters the value of a pair whose key leads through the tables of a path. -/
def enter? (key : String) (v : Value) : (path : List String) → Contents → Option Contents
  | [], t =>
    match Entries.find? key t with
    | some _ => none
    | none => some (Entries.insert key (.value v) t)
  | p :: path, t =>
    match Entries.find? p t with
    | none => (enter? key v path []).map fun sub => Entries.insert p (.table .dotted sub) t
    | some (.table origin sub) =>
      if origin = .headed ∨ (path = [] ∧ origin ≠ .dotted) then none
      else (enter? key v path sub).map fun sub => Entries.insert p (.table origin sub) t
    | some (.tables items) =>
      if path = [] then none
      else (onLast? (enter? key v path) items).map fun items => Entries.insert p (.tables items) t
    | some (.value _) => none

/-- Applies a function to the table that the path of a header leads to. -/
def within? (f : Contents → Option Contents) : (path : List String) → Contents → Option Contents
  | [], t => f t
  | p :: path, t =>
    match Entries.find? p t with
    | none => (within? f path []).map fun sub => Entries.insert p (.table .passed sub) t
    | some (.table origin sub) =>
      (within? f path sub).map fun sub => Entries.insert p (.table origin sub) t
    | some (.tables items) =>
      (onLast? (within? f path) items).map fun items => Entries.insert p (.tables items) t
    | some (.value _) => none

/-- Opens a table and fills it; it may have been passed by the header of a table inside it. -/
def openTable? (fill : Contents → Option Contents) (name : String) (t : Contents) :
    Option Contents :=
  match Entries.find? name t with
  | none => (fill []).map fun sub => Entries.insert name (.table .headed sub) t
  | some (.table .passed sub) =>
    (fill sub).map fun sub => Entries.insert name (.table .headed sub) t
  | some _ => none

/-- Adds a table to a list of tables and fills it. -/
def openElement? (fill : Contents → Option Contents) (name : String) (t : Contents) :
    Option Contents :=
  match Entries.find? name t with
  | none => (fill []).map fun sub => Entries.insert name (.tables [sub]) t
  | some (.tables items) =>
    (fill []).map fun sub => Entries.insert name (.tables (items ++ [sub])) t
  | some _ => none

mutual

/-- The value of a finished part. -/
def toValue : Node → Value
  | .value v => v
  | .table _ entries => .table (toValues entries)
  | .tables items => .array (toTables items)

/-- The values of finished entries. -/
def toValues : List (String × Node) → List (String × Value)
  | [] => []
  | (k, n) :: rest => (k, n.toValue) :: toValues rest

/-- The values of finished tables. -/
def toTables : List (List (String × Node)) → List Value
  | [] => []
  | t :: rest => .table (toValues t) :: toTables rest

end

end Node

end RemotePlayback.Toml
