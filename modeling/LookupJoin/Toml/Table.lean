import LookupJoin.Value
/-!
Tables of a TOML document while it is read. A table comes into being by a header of its own, as a step of a
longer header, or as a step of a dotted key; which of these it was decides who may still add to it. What
stands after a key, an inline table included, is closed. `open?` starts the table of a header, `append?`
starts another table of a list of tables, and `assign?` gives a dotted key its value.
-/
namespace LookupJoin.Toml

inductive Origin where
  | header | implied | dotted
deriving DecidableEq, Repr

inductive Node where
  | value (content : Value)
  | table (origin : Origin) (entries : List (String × Node))
  | tables (items : List (List (String × Node)))

namespace Node

abbrev Entries := List (String × Node)

def put (key : String) (node : Node) : Entries → Entries
  | [] => [(key, node)]
  | (other, present) :: rest =>
    if key = other then (key, node) :: rest else (other, present) :: put key node rest

/-- Changes the table a path leads to. Missing tables on the way come into being with the origin given,
dotted keys do not enter tables that had a header, and a list of tables stands for its last one. -/
def update? (created : Origin) (change : Origin → Entries → Option Entries) :
    List String → Origin → Entries → Option Entries
  | [], origin, entries => change origin entries
  | key :: path, _, entries =>
    match entries.lookup key with
    | none => do
      let inner ← update? created change path created []
      return put key (.table created inner) entries
    | some (.value _) => none
    | some (.table origin inner) => do
      guard !(created = .dotted && origin = .header)
      let inner ← update? created change path origin inner
      return put key (.table origin inner) entries
    | some (.tables items) => do
      let inner ← update? created change path .header (items.getLast?.getD [])
      return put key (.tables (items.dropLast ++ [inner])) entries

def updateLast? (change : String → Entries → Option Entries) (path : List String) (entries : Entries) :
    Option Entries := do
  let key ← path.getLast?
  update? .implied (fun _ => change key) path.dropLast .header entries

/-- A header gives a table that was at most implied so far. -/
def open? : List String → Entries → Option Entries :=
  updateLast? fun key entries =>
    match entries.lookup key with
    | none => some (put key (.table .header []) entries)
    | some (.table .implied inner) => some (put key (.table .header inner) entries)
    | some _ => none

/-- A doubled header gives the next table of a list. -/
def append? : List String → Entries → Option Entries :=
  updateLast? fun key entries =>
    match entries.lookup key with
    | none => some (put key (.tables [[]]) entries)
    | some (.tables items) => some (put key (.tables (items ++ [[]])) entries)
    | some _ => none

/-- A key gets a value once. The tables of a dotted key take values by dotted keys only. -/
def assignIn? (path : List String) (content : Value) (entries : Entries) : Option Entries := do
  let key ← path.getLast?
  let steps := path.dropLast
  let change (origin : Origin) (entries : Entries) : Option Entries := do
    guard ((origin = .dotted) ≠ steps.isEmpty)
    match entries.lookup key with
    | none => some (put key (.value content) entries)
    | some _ => none
  update? .dotted change steps .header entries

def assign? (header path : List String) (content : Value) (entries : Entries) : Option Entries :=
  update? .implied (fun _ => assignIn? path content) header .header entries

mutual

def toValue : Node → Value
  | .value content => content
  | .table _ entries => .table (toEntries entries)
  | .tables items => .list (toTables items)

def toEntries : List (String × Node) → List (String × Value)
  | [] => []
  | (key, node) :: rest => (key, node.toValue) :: toEntries rest

def toTables : List (List (String × Node)) → List Value
  | [] => []
  | entries :: rest => .table (toEntries entries) :: toTables rest

end

def inline? (assignments : List (List String × Value)) : Option Value :=
  (assignments.foldlM (fun entries (path, content) => assignIn? path content entries) []).map
    fun entries => .table (toEntries entries)

end Node

end LookupJoin.Toml
