import LookupJoin.Number.FloatFormat
/-!
Data without a fixed shape: settings as files hold them, and structured answers. A number is an integer or
the bits of a number in double precision.
-/
namespace LookupJoin

inductive Value where
  | null
  | bool (value : Bool)
  | int (value : Int)
  | float (bits : Nat)
  | text (value : String)
  | list (items : List Value)
  | table (entries : List (String × Value))

namespace Value

instance : Inhabited Value := ⟨.null⟩

mutual

def beq : Value → Value → Bool
  | .null, .null => true
  | .bool b, .bool b' => b = b'
  | .int n, .int n' => n = n'
  | .float bits, .float bits' => bits = bits'
  | .text word, .text word' => word = word'
  | .list items, .list items' => beqItems items items'
  | .table entries, .table entries' => beqEntries entries entries'
  | _, _ => false
termination_by structural value => value

def beqItems : List Value → List Value → Bool
  | [], [] => true
  | item :: rest, item' :: rest' => item.beq item' && beqItems rest rest'
  | _, _ => false
termination_by structural items => items

def beqEntry : String × Value → String × Value → Bool
  | (key, value), (key', value') => key = key' && value.beq value'
termination_by structural entry => entry

def beqEntries : List (String × Value) → List (String × Value) → Bool
  | [], [] => true
  | entry :: rest, entry' :: rest' => beqEntry entry entry' && beqEntries rest rest'
  | _, _ => false
termination_by structural entries => entries

end

mutual

theorem beq_iff (value value' : Value) : value.beq value' = true ↔ value = value' := by
  match value with
  | .null | .bool _ | .int _ | .float _ | .text _ => cases value' <;> simp [beq]
  | .list items => cases value' <;> simp [beq, beqItems_iff items]
  | .table entries => cases value' <;> simp [beq, beqEntries_iff entries]

theorem beqItems_iff (items items' : List Value) : beqItems items items' = true ↔ items = items' := by
  match items, items' with
  | [], [] | [], _ :: _ | _ :: _, [] => simp [beqItems]
  | item :: rest, item' :: rest' => simp [beqItems, beq_iff item, beqItems_iff rest]

theorem beqEntries_iff (entries entries' : List (String × Value)) :
    beqEntries entries entries' = true ↔ entries = entries' := by
  match entries, entries' with
  | [], [] | [], _ :: _ | _ :: _, [] => simp [beqEntries]
  | (key, value) :: rest, (key', value') :: rest' =>
    simp [beqEntries, beqEntry, beq_iff value, beqEntries_iff rest]

end

instance : DecidableEq Value := fun value value' => decidable_of_iff _ (beq_iff value value')

abbrev Entries := List (String × Value)

def table? : Value → Option (String → Option Value)
  | .table entries => some fun key => entries.lookup key
  | _ => none

def list? : Value → Option (List Value)
  | .list items => some items
  | _ => none

/-- Gives a key its value, in the place of the key where it is present and at the end otherwise. -/
def put (key : String) (value : Value) : Entries → Entries
  | [] => [(key, value)]
  | (other, present) :: rest =>
    if key = other then (key, value) :: rest else (other, present) :: put key value rest

/-- Of several entries with one key the last one stays. -/
def unique (entries : Entries) : Entries := entries.foldl (fun kept entry => put entry.1 entry.2 kept) []

def floatOfInt (n : Int) : Nat :=
  FloatFormat.double.withSign (n < 0) (FloatFormat.double.nearest n.natAbs 1)

theorem lookup_cons_eq (entry : String × Value) (rest : Entries) (key : String) :
    List.lookup key (entry :: rest) = if key = entry.1 then some entry.2 else rest.lookup key := by
  rw [List.lookup_cons]
  split <;> simp_all

theorem lookup_put (key other : String) (value : Value) (entries : Entries) :
    (put key value entries).lookup other = if other = key then some value else entries.lookup other := by
  induction entries with
  | nil => simp [put, lookup_cons_eq]
  | cons head rest ih =>
    obtain ⟨present, held⟩ := head
    by_cases here : key = present
    · by_cases same : other = key <;> simp_all [put, lookup_cons_eq]
    · by_cases same : other = present <;> by_cases wanted : other = key <;> simp_all [put, lookup_cons_eq]

end Value

end LookupJoin
