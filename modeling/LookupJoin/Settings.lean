import LookupJoin.Hint
/-!
Settings of the planner: what asynchronous lookups do when a join has no hint. They are read from data of any
format that can be looked at as tables, lists and single values. A group of settings is a table, or a list of its
members in order; a member that is missing has its default, and a member that is not known is left out of account.
-/
namespace LookupJoin

/-- How data are looked at. A group of so many members may come as a list of them. -/
structure Reader (Data : Type) where
  table? : Data → Option (String → Option Data)
  list? : Nat → Data → Option (List Data)
  natural? : Data → Option Nat
  flag? : Data → Option Bool
  variant? : Data → Option String

namespace Reader

def members? (reader : Reader Data) (count : Nat) (data : Data) : Option (String → Nat → Option Data) :=
  match reader.table? data with
  | some entries => some fun name _ => entries name
  | none => (reader.list? count data).map fun items _ place => items[place]?

def mode? (reader : Reader Data) (data : Data) : Option OutputMode :=
  (reader.variant? data).bind OutputMode.ofWord?

end Reader

def member? (read : Data → Option α) (fallback : α) : Option Data → Option α
  | none => some fallback
  | some data => read data

structure LookupSettings where
  bufferCapacity : Nat
  timeoutMs : Nat
  outputMode : OutputMode
  preferAsync : Bool
deriving DecidableEq, Repr

namespace LookupSettings

def defaultBufferCapacity : Nat := 100

def defaultTimeoutMs : Nat := 180000

instance : Inhabited LookupSettings := ⟨defaultBufferCapacity, defaultTimeoutMs, default, false⟩

-- The defaults of the members are written out again: none of them is taken from the default of the group.
def read? (reader : Reader Data) (data : Data) : Option LookupSettings := do
  let member ← reader.members? 4 data
  let bufferCapacity ← member? reader.natural? defaultBufferCapacity (member "buffer_capacity" 0)
  let timeoutMs ← member? reader.natural? defaultTimeoutMs (member "timeout_ms" 1)
  let outputMode ← member? reader.mode? default (member "output_mode" 2)
  let preferAsync ← member? reader.flag? default (member "prefer_async" 3)
  return ⟨bufferCapacity, timeoutMs, outputMode, preferAsync⟩

end LookupSettings

structure Settings where
  asyncLookup : LookupSettings
deriving DecidableEq, Repr, Inhabited

def Settings.read? (reader : Reader Data) (data : Data) : Option Settings := do
  let member ← reader.members? 1 data
  return ⟨← member? (LookupSettings.read? reader) default (member "async_lookup" 0)⟩

end LookupJoin
