import LookupJoin.Proofs.PrimaryKey.Unknown
import LookupJoin.LookupKey.Analysis
/-!
Where a calculation puts out the primary key. A raw column is exposed at the first output that refers to it as it is;
casts and identity calls, which lookup keys see through, expose nothing. Main statement: the remapped key has, for
each key column in the order of the declaration, the output it is exposed at, and tracing that output leads back to
the column; the key is hidden exactly when some column of it is exposed nowhere, and an error exactly when some name
is no field of the table.
-/
namespace LookupJoin

def FirstAt {α : Type} (kind : α → Prop) (items : List α) (index : Nat) : Prop :=
  (∃ item ∈ items[index]?, kind item) ∧ ∀ earlier < index, ∀ item ∈ items[earlier]?, ¬kind item

theorem findIdx?_eq_some_iff_firstAt {α : Type} {test : α → Bool} {items : List α} {index : Nat} :
    items.findIdx? test = some index ↔ FirstAt (fun item => test item = true) items index := by
  rw [List.findIdx?_eq_some_iff_getElem]
  constructor
  · intro found
    obtain ⟨inside, here, before⟩ := found
    refine ⟨⟨items[index], List.getElem?_eq_getElem inside, here⟩, fun earlier below item present => ?_⟩
    obtain ⟨_, rfl⟩ := List.getElem?_eq_some_iff.1 present
    exact before earlier below
  · intro first
    obtain ⟨⟨item, present, here⟩, before⟩ := first
    obtain ⟨inside, rfl⟩ := List.getElem?_eq_some_iff.1 present
    refine ⟨inside, here, fun earlier below => ?_⟩
    exact before earlier below _ (List.getElem?_eq_getElem (Nat.lt_trans below inside))

def Expr.RefersTo (column : Nat) (expr : Expr) : Prop := ∃ type, expr = .ref column type

theorem Expr.index?_eq_some_iff {expr : Expr} {column : Nat} : expr.index? = some column ↔ expr.RefersTo column := by
  cases expr <;> simp [index?, RefersTo]

namespace Calc

/-- The first output that is the column itself. -/
def ExposedAt (program : Calc) (column output : Nat) : Prop :=
  FirstAt (Expr.RefersTo column) program.projections output

def Exposes (program : Calc) (column : Nat) : Prop := ∃ expr ∈ program.projections, expr.RefersTo column

theorem ExposedAt.source? {program : Calc} {column output : Nat} (exposed : program.ExposedAt column output) :
    program.source? output = some column := by
  obtain ⟨⟨expr, present, type, rfl⟩, _⟩ := exposed
  have found : program.projection? output = some (.ref column type) := present
  rw [Calc.source?, found]
  rfl

end Calc

namespace PrimaryKey

/-- The raw indices of the key columns, each the first field of its name, in the order of the declaration. -/
def Located (schema : Schema) (columns : List String) (raw : List Nat) : Prop :=
  List.Forall₂ (fun name index => FirstAt (fun field => field.name = name) schema index) columns raw

variable {table : String} {schema : Schema} {columns : List String} {raw outputs : List Nat} {program : Calc}

theorem columnIndex_eq_ok {name : String} {index : Nat} :
    columnIndex table schema name = .ok index ↔ FirstAt (fun field => field.name = name) schema index := by
  have searched : (schema.findIdx? fun field => field.name = name) = some index ↔
      FirstAt (fun field => field.name = name) schema index := by
    rw [findIdx?_eq_some_iff_firstAt]
    simp
  rw [← searched, columnIndex]
  split
  next found => simp [found]
  next absent => simp [absent]

theorem rawIndices_eq_ok : rawIndices table schema columns = .ok raw ↔ Located schema columns raw := by
  simp only [rawIndices, Outcome.mapM_eq_ok, columnIndex_eq_ok, Located]

theorem exposed?_eq_some_iff {column output : Nat} :
    exposed? program column = some output ↔ program.ExposedAt column output := by
  rw [exposed?, findIdx?_eq_some_iff_firstAt]
  simp only [decide_eq_true_eq, Expr.index?_eq_some_iff]
  rfl

theorem exposed?_eq_none_iff {column : Nat} : exposed? program column = none ↔ ¬program.Exposes column := by
  rw [exposed?, List.findIdx?_eq_none_iff]
  simp [Calc.Exposes, Expr.index?_eq_some_iff]

theorem outputIndices_eq_ok {remapped : Option (List Nat)} :
    outputIndices table (some columns) schema (some program) = .ok remapped ↔
      ∃ raw, Located schema columns raw ∧ raw.mapM (exposed? program) = remapped := by
  simp only [outputIndices, Outcome.bind_eq_ok, rawIndices_eq_ok, Except.ok.injEq]

theorem outputIndices_eq_exposed :
    outputIndices table (some columns) schema (some program) = .ok (some outputs) ↔
      ∃ raw, Located schema columns raw ∧ List.Forall₂ program.ExposedAt raw outputs := by
  simp only [outputIndices_eq_ok, Outcome.mapM_eq_some, exposed?_eq_some_iff]

theorem outputIndices_eq_hidden :
    outputIndices table (some columns) schema (some program) = .ok none ↔
      ∃ raw, Located schema columns raw ∧ ∃ column ∈ raw, ¬program.Exposes column := by
  simp only [outputIndices_eq_ok, Outcome.mapM_eq_none, exposed?_eq_none_iff]

theorem exists_exposedAt_iff :
    (∃ outputs, List.Forall₂ program.ExposedAt raw outputs) ↔ ∀ column ∈ raw, program.Exposes column := by
  have remapped (outputs : List Nat) :
      raw.mapM (exposed? program) = some outputs ↔ List.Forall₂ program.ExposedAt raw outputs := by
    simp only [Outcome.mapM_eq_some, exposed?_eq_some_iff]
  have hidden : raw.mapM (exposed? program) = none ↔ ∃ column ∈ raw, ¬program.Exposes column := by
    simp only [Outcome.mapM_eq_none, exposed?_eq_none_iff]
  simp only [← remapped, ← Option.ne_none_iff_exists', ne_eq, hidden]
  simp

/-- Tracing the outputs of the key leads back to the columns of the key. -/
theorem source?_of_exposedAt (exposed : List.Forall₂ program.ExposedAt raw outputs) :
    List.Forall₂ (fun column output => program.source? output = some column) raw outputs :=
  exposed.imp fun _ _ here => here.source?

theorem outputIndices_inverts_source (table : String) (columns : List String) (schema : Schema) (program : Calc) :
    (∀ fault, outputIndices table (some columns) schema (some program) = .error fault ↔
        ∃ name, FirstUnknown schema columns name ∧ fault = .unknownColumn table name) ∧
      ((∃ name, FirstUnknown schema columns name) ↔ ∃ name ∈ columns, ¬Named schema name) ∧
      (∀ outputs, outputIndices table (some columns) schema (some program) = .ok (some outputs) ↔
        ∃ raw, Located schema columns raw ∧ List.Forall₂ program.ExposedAt raw outputs) ∧
      ((∃ outputs, outputIndices table (some columns) schema (some program) = .ok (some outputs)) ↔
        ∃ raw, Located schema columns raw ∧ ∀ column ∈ raw, program.Exposes column) ∧
      (outputIndices table (some columns) schema (some program) = .ok none ↔
        ∃ raw, Located schema columns raw ∧ ∃ column ∈ raw, ¬program.Exposes column) ∧
      ∀ raw outputs, List.Forall₂ program.ExposedAt raw outputs →
        List.Forall₂ (fun column output => program.source? output = some column) raw outputs := by
  refine ⟨fun fault => ?_, exists_firstUnknown_iff, fun _ => outputIndices_eq_exposed, ?_, outputIndices_eq_hidden,
    fun _ _ => source?_of_exposedAt⟩
  · simp [outputIndices_eq_error]
  · simp only [outputIndices_eq_exposed, ← exists_exposedAt_iff]
    constructor
    · intro remapped
      obtain ⟨outputs, raw, located, exposed⟩ := remapped
      exact ⟨raw, located, outputs, exposed⟩
    · intro exposed
      obtain ⟨raw, located, outputs, exposed⟩ := exposed
      exact ⟨outputs, raw, located, exposed⟩

def rearranged : Calc where
  input := [⟨"id", .int32, false, []⟩, ⟨"name", .utf8, true, []⟩, ⟨"age", .int32, true, []⟩, ⟨"id", .int64, true, []⟩]
  columns := [(.call .cast [.ref 0 .int32] .int64, "wide"), (.call .passThrough [.ref 1 .utf8] .utf8, "name"),
    (.ref 2 .int32, "age"), (.ref 0 .int32, "id"), (.ref 2 .int32, "years")]
  filter := none
  sound := rfl

theorem outputIndices_inverts_rearranged :
    outputIndices "D" (some ["age", "id"]) rearranged.input (some rearranged) = .ok (some [2, 3]) ∧
      List.Forall₂ rearranged.ExposedAt [2, 0] [2, 3] ∧
      List.Forall₂ (fun column output => rearranged.source? output = some column) [2, 0] [2, 3] ∧
      outputIndices "D" (some ["id", "name"]) rearranged.input (some rearranged) = .ok none ∧
      rearranged.source? 1 = some 1 := by
  have exposed : List.Forall₂ rearranged.ExposedAt [2, 0] [2, 3] :=
    .cons (exposed?_eq_some_iff.1 rfl) (.cons (exposed?_eq_some_iff.1 rfl) .nil)
  obtain ⟨_, _, _, _, _, traced⟩ := outputIndices_inverts_source "D" ["age", "id"] rearranged.input rearranged
  exact ⟨rfl, exposed, traced [2, 0] [2, 3] exposed, rfl, rfl⟩

end PrimaryKey

end LookupJoin
