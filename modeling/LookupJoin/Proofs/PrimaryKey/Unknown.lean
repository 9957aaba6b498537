import LookupJoin.PrimaryKey
import LookupJoin.Proofs.Outcome
/-!
Primary keys that name a column the table does not have. Main statement: the primary key cannot be found exactly
when one of its names is no field of the table, and what is reported is the first such name in the order of the
declaration; whether a calculation stands between has no part in it.
-/
namespace LookupJoin.PrimaryKey

def Named (schema : Schema) (name : String) : Prop := ∃ field ∈ schema, field.name = name

/-- The first of the names that no field goes by. -/
def FirstUnknown (schema : Schema) (columns : List String) (name : String) : Prop :=
  ∃ before after, columns = before ++ name :: after ∧ (∀ earlier ∈ before, Named schema earlier) ∧
    ¬Named schema name

variable {table name : String} {schema : Schema} {columns : List String} {fault : Error}

theorem exists_columnIndex_eq_ok : (∃ index, columnIndex table schema name = .ok index) ↔ Named schema name := by
  unfold columnIndex
  split
  next index found =>
    obtain ⟨inside, same, _⟩ := List.findIdx?_eq_some_iff_getElem.1 found
    have named : Named schema name := ⟨schema[index], List.getElem_mem inside, by simpa using same⟩
    simp [named]
  next absent =>
    have unnamed : ¬Named schema name := by simpa [Named] using List.findIdx?_eq_none_iff.1 absent
    simp [unnamed]

theorem columnIndex_eq_error :
    columnIndex table schema name = .error fault ↔ ¬Named schema name ∧ fault = .unknownColumn table name := by
  rw [← @exists_columnIndex_eq_ok table, columnIndex]
  split
  next index found => simp
  next absent => simp [eq_comm]

theorem rawIndices_eq_error :
    rawIndices table schema columns = .error fault ↔
      ∃ name, FirstUnknown schema columns name ∧ fault = .unknownColumn table name := by
  simp only [rawIndices, Outcome.mapM_eq_error_iff, exists_columnIndex_eq_ok, columnIndex_eq_error]
  constructor
  · intro failed
    obtain ⟨before, name, after, split, known, unknown, same⟩ := failed
    exact ⟨name, ⟨before, after, split, known, unknown⟩, same⟩
  · intro first
    obtain ⟨name, ⟨before, after, split, known, unknown⟩, same⟩ := first
    exact ⟨before, name, after, split, known, unknown, same⟩

theorem outputIndices_eq_error {primaryKey : Option (List String)} {program : Option Calc} :
    outputIndices table primaryKey schema program = .error fault ↔
      ∃ columns ∈ primaryKey, ∃ name, FirstUnknown schema columns name ∧ fault = .unknownColumn table name := by
  cases primaryKey with
  | none => simp [outputIndices]
  | some columns =>
    simp only [outputIndices, Outcome.bind_eq_error, rawIndices_eq_error, Option.mem_some_iff, exists_eq_left']
    refine or_iff_left fun later => ?_
    obtain ⟨raw, _, failed⟩ := later
    cases program <;> cases failed

theorem exists_firstUnknown_iff :
    (∃ name, FirstUnknown schema columns name) ↔ ∃ name ∈ columns, ¬Named schema name := by
  constructor
  · intro first
    obtain ⟨name, before, after, rfl, _, unknown⟩ := first
    exact ⟨name, List.mem_append_cons_self, unknown⟩
  · intro some
    obtain ⟨name, member, unknown⟩ := some
    -- The search for the indices stops at the first one.
    cases searched : rawIndices "" schema columns with
    | error fault =>
      obtain ⟨first, unknown, _⟩ := rawIndices_eq_error.1 searched
      exact ⟨first, unknown⟩
    | ok raw =>
      have each := Outcome.exists_mapM_eq_ok.1 ⟨raw, searched⟩
      exact absurd (exists_columnIndex_eq_ok.1 (each name member)) unknown

end LookupJoin.PrimaryKey
