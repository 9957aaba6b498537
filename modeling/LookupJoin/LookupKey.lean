import LookupJoin.Scalar
/-!
Lookup keys: what each column of the lookup table is fixed to during a lookup, by its index in the raw
table row. `LookupKeys` holds at most one key for a column, in the order of the columns. Main statements:
after an insertion the column has the new key and every other column the key it had, and two collections
with the same key for each column are equal.
-/
namespace LookupJoin

inductive LookupKey where
  | constant (type : DataType) (value : Scalar)
  | field (source : Nat)

def LookupKey.source? : LookupKey → Option Nat
  | .field source => some source
  | .constant _ _ => none

namespace LookupKeys

abbrev Entries := List (Nat × LookupKey)

def Ascending (entries : Entries) : Prop := (entries.map Prod.fst).Pairwise (· < ·)

def find (column : Nat) : Entries → Option LookupKey
  | [] => none
  | (other, key) :: rest => if column = other then some key else find column rest

def put (column : Nat) (key : LookupKey) : Entries → Entries
  | [] => [(column, key)]
  | (other, present) :: rest =>
    if column < other then (column, key) :: (other, present) :: rest
    else if column = other then (column, key) :: rest
    else (other, present) :: put column key rest

theorem ascending_cons {entry : Nat × LookupKey} {rest : Entries} :
    Ascending (entry :: rest) ↔ (∀ later ∈ rest, entry.1 < later.1) ∧ Ascending rest := by
  simp [Ascending]

theorem mem_put {column : Nat} {key : LookupKey} {entries : Entries} {entry : Nat × LookupKey}
    (member : entry ∈ put column key entries) : entry = (column, key) ∨ entry ∈ entries := by
  induction entries with
  | nil => simpa [put] using member
  | cons head rest ih =>
    obtain ⟨other, present⟩ := head
    simp only [put] at member
    split at member
    · simpa using member
    · split at member <;> grind

theorem ascending_put {entries : Entries} (column : Nat) (key : LookupKey) (ascending : Ascending entries) :
    Ascending (put column key entries) := by
  induction entries with
  | nil => simp [put, Ascending]
  | cons head rest ih =>
    obtain ⟨other, present⟩ := head
    have ⟨above, sorted⟩ := ascending_cons.1 ascending
    simp only [put]
    split
    case isTrue below =>
      refine ascending_cons.2 ⟨fun later member => ?_, ascending⟩
      rcases List.mem_cons.1 member with same | member
      · simpa [same] using below
      · exact Nat.lt_trans below (above later member)
    case isFalse notBelow =>
      split
      case isTrue same => exact ascending_cons.2 ⟨same ▸ above, sorted⟩
      case isFalse different =>
        refine ascending_cons.2 ⟨fun later member => ?_, ih sorted⟩
        rcases mem_put member with same | member
        · simp only [same]; omega
        · exact above later member

theorem find_put (column other : Nat) (key : LookupKey) (entries : Entries) :
    find other (put column key entries) = if other = column then some key else find other entries := by
  induction entries with
  | nil => rfl
  | cons head rest ih =>
    obtain ⟨present, held⟩ := head
    simp only [put]
    split
    · rfl
    · split
      case isTrue same => by_cases here : other = column <;> simp_all [find]
      case isFalse different => by_cases here : other = column <;> simp_all [find]

theorem find_eq_none_of_below {column : Nat} {entries : Entries} (below : ∀ entry ∈ entries, column < entry.1) :
    find column entries = none := by
  induction entries with
  | nil => rfl
  | cons head rest ih =>
    have least := below head List.mem_cons_self
    rw [find, if_neg (Nat.ne_of_lt least)]
    exact ih fun entry member => below entry (List.mem_cons_of_mem _ member)

theorem find_head (head : Nat × LookupKey) (rest : Entries) : find head.1 (head :: rest) = some head.2 := by
  simp [find]

theorem le_of_find {head : Nat × LookupKey} {rest : Entries} {column : Nat} (sorted : Ascending (head :: rest))
    (found : find column (head :: rest) ≠ none) : head.1 ≤ column := by
  refine Nat.not_lt.1 fun less => found (find_eq_none_of_below fun entry member => ?_)
  rcases List.mem_cons.1 member with rfl | member
  · exact less
  · exact Nat.lt_trans less ((ascending_cons.1 sorted).1 entry member)

theorem eq_of_find {left right : Entries} (sortedLeft : Ascending left) (sortedRight : Ascending right)
    (same : ∀ column, find column left = find column right) : left = right := by
  induction left generalizing right with
  | nil =>
    cases right with
    | nil => rfl
    | cons head rest => simpa [find, find_head] using same head.1
  | cons head rest ih =>
    cases right with
    | nil => simpa [find, find_head] using same head.1
    | cons head' rest' =>
      have ⟨above, sorted⟩ := ascending_cons.1 sortedLeft
      have ⟨above', sorted'⟩ := ascending_cons.1 sortedRight
      -- Each list has an entry for the column of the other's first.
      have first : head.1 = head'.1 := by
        refine Nat.le_antisymm (le_of_find sortedLeft ?_) (le_of_find sortedRight ?_)
        · rw [same, find_head]
          exact Option.some_ne_none _
        · rw [← same, find_head]
          exact Option.some_ne_none _
      have key : head.2 = head'.2 := by
        have found := same head.1
        rw [find_head, first, find_head] at found
        exact Option.some.inj found
      have tails : rest = rest' := by
        refine ih sorted sorted' fun column => ?_
        by_cases here : column = head.1
        · rw [here, find_eq_none_of_below above, first, find_eq_none_of_below above']
        · have elsewhere := same column
          rwa [find, if_neg here, find, if_neg (first ▸ here)] at elsewhere
      rw [Prod.ext first key, tails]

end LookupKeys

structure LookupKeys where
  entries : LookupKeys.Entries
  ascending : LookupKeys.Ascending entries

namespace LookupKeys

def empty : LookupKeys := ⟨[], by simp [Ascending]⟩

def get? (keys : LookupKeys) (column : Nat) : Option LookupKey := find column keys.entries

def contains (keys : LookupKeys) (column : Nat) : Bool := (keys.get? column).isSome

def insert (keys : LookupKeys) (entry : Nat × LookupKey) : LookupKeys :=
  ⟨put entry.1 entry.2 keys.entries, ascending_put entry.1 entry.2 keys.ascending⟩

/-- Inserts one entry after the other, so that the last one for a column stays. -/
def insertAll (keys : LookupKeys) (entries : Entries) : LookupKeys := entries.foldl insert keys

def ofList (entries : Entries) : LookupKeys := empty.insertAll entries

@[simp] theorem get?_empty (column : Nat) : empty.get? column = none := rfl

theorem get?_insert (keys : LookupKeys) (entry : Nat × LookupKey) (column : Nat) :
    (keys.insert entry).get? column = if column = entry.1 then some entry.2 else keys.get? column :=
  find_put entry.1 column entry.2 keys.entries

theorem ext_get? {left right : LookupKeys} (same : ∀ column, left.get? column = right.get? column) :
    left = right := by
  obtain ⟨entries, ascending⟩ := left
  obtain ⟨entries', ascending'⟩ := right
  cases eq_of_find ascending ascending' same
  rfl

end LookupKeys

end LookupJoin
