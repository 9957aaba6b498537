import LookupJoin.Calc
import LookupJoin.Error
import LookupJoin.LookupKey
/-!
Whether lookup keys cover the primary key of the table, so that a lookup finds one row at most. The key
columns are named; a calculation exposes a column when one of its outputs is that plain column, casts and
identity calls not being looked through.
-/
namespace LookupJoin.PrimaryKey

def columnIndex (table : String) (schema : Schema) (column : String) : Except Error Nat :=
  match schema.findIdx? fun field => field.name = column with
  | some index => .ok index
  | none => .error (.unknownColumn table column)

def rawIndices (table : String) (schema : Schema) (columns : List String) : Except Error (List Nat) :=
  columns.mapM (columnIndex table schema)

def exposed? (program : Calc) (column : Nat) : Option Nat :=
  program.projections.findIdx? fun expr => expr.index? = some column

/-- The primary key in terms of the lookup side; nothing without a declared key, or when the calculation
hides a part of it. -/
def outputIndices (table : String) (primaryKey : Option (List String)) (schema : Schema)
    (program : Option Calc) : Except Error (Option (List Nat)) :=
  match primaryKey with
  | none => .ok none
  | some columns => do
    let raw ← rawIndices table schema columns
    match program with
    | none => .ok (some raw)
    | some program => .ok (raw.mapM (exposed? program))

def covered (keys : LookupKeys) : Option (List Nat) → Bool
  | some indices => !indices.isEmpty && indices.all keys.contains
  | none => false

/-- Whether the joined rows have to be kept as updates by key: the input may update rows, and a lookup may
find more than one. -/
def upsertRequired (insertOnly : Bool) (covered : Bool) : Bool := !insertOnly && !covered

end LookupJoin.PrimaryKey
