import QueryGate.Document

/-! Tables of TOML while they are being defined. A table is defined once: by a header, by dotted
keys, or as a value. A table that only lies on the way to another one may still get its header. -/
namespace QueryGate.Toml

/-- How a table came to be. -/
inductive Origin where
  | passed
  | dotted
  | header
  deriving DecidableEq

inductive Node where
  /-- A value, which cannot be extended. -/
  | value (document : Document)
  | table (origin : Origin) (entries : List (String × Node))
  /-- An array of tables; only the last one can be extended. -/
  | tables (earlier : List (List (String × Node))) (last : List (String × Node))

abbrev Entries := List (String × Node)

/-- One definition of a text, each under its full path. -/
inductive Definition where
  | header (path : List String)
  | arrayHeader (path : List String)
  | assignment (path : List String) (value : Document)

/-- Changes the table at a path, and makes the tables on the way that are missing. Dotted keys do
not lead into tables that have a header, and they end at a table that dotted keys have made; the
last table of an array is only passed. -/
def changeAt (dotted : Bool) (change : Entries → Option Entries) :
    List String → Entries → Option Entries
  | [], entries => change entries
  | key :: path, entries =>
    match Table.lookup key entries with
    | none => do
      let inner ← changeAt dotted change path []
      return Table.assign key (.table (if dotted then .dotted else .passed) inner) entries
    | some (.table origin inner) => do
      if dotted ∧ (origin = .header ∨ (path = [] ∧ origin ≠ .dotted)) then none
      let inner ← changeAt dotted change path inner
      return Table.assign key (.table origin inner) entries
    | some (.tables earlier last) => do
      if dotted ∧ path = [] then none
      let last ← changeAt dotted change path last
      return Table.assign key (.tables earlier last) entries
    | some (.value _) => none

/-- Splits the last name off a path. -/
def splitLast (path : List String) : List String × String :=
  (path.dropLast, path.getLast?.getD "")

/-- Assigns a value under a dotted key; no key is assigned twice. -/
def assignAt (path : List String) (value : Document) (entries : Entries) : Option Entries :=
  let (path, key) := splitLast path
  let add := fun entries : Entries =>
    if (Table.lookup key entries).isSome then none else some (entries ++ [(key, .value value)])
  changeAt true add path entries

/-- Opens a table by its header. -/
def openTable (key : String) (entries : Entries) : Option Entries :=
  match Table.lookup key entries with
  | none => some (entries ++ [(key, .table .header [])])
  | some (.table .passed inner) => some (Table.assign key (.table .header inner) entries)
  | _ => none

/-- Opens the next table of an array. -/
def openNext (key : String) (entries : Entries) : Option Entries :=
  match Table.lookup key entries with
  | none => some (entries ++ [(key, .tables [] [])])
  | some (.tables earlier last) =>
    some (Table.assign key (.tables (earlier ++ [last]) []) entries)
  | _ => none

/-- Takes definitions in order, each assignment below the header before it. -/
def define : (current : List String) → Entries → List Definition → Option Entries
  | _, entries, [] => some entries
  | _, entries, .header path :: rest => do
    let (parent, key) := splitLast path
    define path (← changeAt false (openTable key) parent entries) rest
  | _, entries, .arrayHeader path :: rest => do
    let (parent, key) := splitLast path
    define path (← changeAt false (openNext key) parent entries) rest
  | current, entries, .assignment path value :: rest => do
    define current (← changeAt false (assignAt path value) current entries) rest

/-- The entries in the order of their names. -/
def sorted (entries : List (String × Document)) : Document :=
  .record (entries.mergeSort fun first second => first.1 ≤ second.1)

mutual

/-- The document of a node, with the entries of each table in the order of their names. -/
def Node.document : Node → Document
  | .value document => document
  | .table _ entries => sorted (entryDocuments entries)
  | .tables earlier last => .list (tableDocuments earlier ++ [sorted (entryDocuments last)])

def entryDocuments : List (String × Node) → List (String × Document)
  | [] => []
  | (key, node) :: rest => (key, node.document) :: entryDocuments rest

def tableDocuments : List (List (String × Node)) → List Document
  | [] => []
  | entries :: rest => sorted (entryDocuments entries) :: tableDocuments rest

end

end QueryGate.Toml
