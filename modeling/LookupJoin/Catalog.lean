import LookupJoin.DataType
import LookupJoin.Error
/-!
Lookup tables as the planner sees them: a name, the fields of a row, the declared primary key if there is one, and the
styles of lookup on offer. Tables are registered in a catalog; one registered under a name stands for it until another
one is registered under the same name.
-/
namespace LookupJoin

structure Capability where
  sync : Bool
  async : Bool
deriving DecidableEq, Repr

namespace Capability

def lookup (capability : Capability) : Bool := capability.sync || capability.async

end Capability

structure LookupTable where
  name : String
  schema : Schema
  primaryKey : Option (List String)
  capability : Capability

/-- The registrations, the latest first. -/
structure Catalog where
  entries : List LookupTable

namespace Catalog

def empty : Catalog := ⟨[]⟩

def get? (catalog : Catalog) (name : String) : Option LookupTable :=
  catalog.entries.find? fun table => table.name = name

def register (catalog : Catalog) (table : LookupTable) : Catalog := ⟨table :: catalog.entries⟩

def resolve (catalog : Catalog) (name : String) : Except Error LookupTable :=
  match catalog.get? name with
  | some table => .ok table
  | none => .error (.tableNotFound name)

@[simp] theorem get?_empty (name : String) : empty.get? name = none := rfl

theorem get?_register (catalog : Catalog) (table : LookupTable) (name : String) :
    (catalog.register table).get? name = if table.name = name then some table else catalog.get? name := by
  by_cases same : table.name = name <;> simp [get?, register, same]

end Catalog

end LookupJoin
