import LookupJoin.Execution
import LookupJoin.Proofs.Plan.LostPair
/-!
What a covered primary key says. Coverage is tested on the key in terms of the lookup side, while lookup keys
are held by raw column, so the two agree only as far as the calculation leaves the key columns in place. Main
statement: coverage is right for every join over a table and calculation exactly when these are aligned, that
is when binding the columns numbered like the outputs of the key binds the key columns too.
-/
namespace LookupJoin

namespace PrimaryKey

def exposedAll? (program : Option Calc) (raw : List Nat) : Option (List Nat) :=
  match program with
  | none => some raw
  | some program => raw.mapM (exposed? program)

theorem exposedAll?_eq_nil_iff {program : Option Calc} {raw outputs : List Nat}
    (exposed : exposedAll? program raw = some outputs) : outputs = [] ↔ raw = [] := by
  cases program with
  | none =>
    cases exposed
    rfl
  | some program =>
    cases raw with
    | nil =>
      cases exposed
      simp
    | cons column rest =>
      have mapped : (column :: rest).mapM (exposed? program) = some outputs := exposed
      rw [List.mapM_cons, Option.bind_eq_bind, Option.bind_eq_some_iff] at mapped
      obtain ⟨first, _, mapped⟩ := mapped
      obtain ⟨others, _, same⟩ := Option.bind_eq_some_iff.1 mapped
      cases same
      simp

theorem outputIndices_eq_some_iff {table : String} {primaryKey : Option (List String)} {schema : Schema}
    {program : Option Calc} {outputs : List Nat} :
    outputIndices table primaryKey schema program = .ok (some outputs) ↔
      ∃ columns ∈ primaryKey, ∃ raw, rawIndices table schema columns = .ok raw ∧
        exposedAll? program raw = some outputs := by
  unfold outputIndices
  cases primaryKey with
  | none => simp
  | some columns =>
    simp only [Outcome.bind_eq_ok, Option.mem_def, Option.some.injEq, exists_eq_left']
    refine exists_congr fun raw => and_congr_right fun _ => ?_
    cases program <;> simp [exposedAll?]

theorem covered_eq_true_iff {keys : LookupKeys} {key : Option (List Nat)} :
    covered keys key = true ↔
      ∃ indices, key = some indices ∧ indices ≠ [] ∧ ∀ index ∈ indices, keys.contains index = true := by
  cases key <;> simp [covered]

end PrimaryKey

open PrimaryKey

def LookupTable.RawKey (table : LookupTable) (raw : List Nat) : Prop :=
  ∃ columns ∈ table.primaryKey, rawIndices table.name table.schema columns = .ok raw

theorem LookupTable.RawKey.unique {table : LookupTable} {raw raw' : List Nat} (key : table.RawKey raw)
    (key' : table.RawKey raw') : raw = raw' := by
  obtain ⟨columns, declared, found⟩ := key
  obtain ⟨columns', declared', found'⟩ := key'
  cases Option.mem_unique declared declared'
  exact Except.ok.inj (found.symm.trans found')

namespace JoinPlan

variable {plan : JoinPlan}

/-- There is a primary key, and each of its columns has a lookup key. -/
def Pins (plan : JoinPlan) : Prop :=
  ∃ raw, plan.table.RawKey raw ∧ raw ≠ [] ∧ ∀ column ∈ raw, plan.keys.contains column = true

/-- Coverage is reported, and upserts are done without, only when the keys pin the primary key. -/
structure CoverageRight (plan : JoinPlan) : Prop where
  reported : plan.coversPrimaryKey = .ok true → plan.Pins
  streaming : ∀ made, plan.execution .streaming = .ok made → plan.input.insertOnly = false →
    made.upsert = false → plan.Pins

theorem coversPrimaryKey_eq_true_iff :
    plan.coversPrimaryKey = .ok true ↔
      ∃ raw outputs, plan.table.RawKey raw ∧ exposedAll? plan.input.program raw = some outputs ∧
        outputs ≠ [] ∧ ∀ output ∈ outputs, plan.keys.contains output = true := by
  simp only [coversPrimaryKey, primaryKey, Outcome.map_eq_ok, covered_eq_true_iff]
  constructor
  · rintro ⟨_, indices, outputs, rfl, present, all⟩
    obtain ⟨columns, declared, raw, found, exposed⟩ := outputIndices_eq_some_iff.1 indices
    exact ⟨raw, outputs, ⟨columns, declared, found⟩, exposed, present, all⟩
  · rintro ⟨raw, outputs, ⟨columns, declared, found⟩, exposed, present, all⟩
    exact ⟨some outputs, outputIndices_eq_some_iff.2 ⟨columns, declared, raw, found, exposed⟩, outputs, rfl,
      present, all⟩

theorem covered_of_streaming {made : Execution} (executed : plan.execution .streaming = .ok made)
    (updates : plan.input.insertOnly = false) (upsert : made.upsert = false) :
    plan.coversPrimaryKey = .ok true := by
  obtain ⟨_, _, rest⟩ := Outcome.bind_eq_ok.1 executed
  obtain ⟨covered, tested, same⟩ := Outcome.bind_eq_ok.1 rest
  cases same
  have required : upsertRequired plan.input.insertOnly covered = false := upsert
  rw [tested]
  cases covered with
  | true => rfl
  | false =>
    rw [updates] at required
    cases required

theorem coverageRight_iff :
    plan.CoverageRight ↔
      ∀ raw outputs, plan.table.RawKey raw → exposedAll? plan.input.program raw = some outputs →
        (∀ output ∈ outputs, plan.keys.contains output = true) →
          ∀ column ∈ raw, plan.keys.contains column = true := by
  constructor
  · intro right raw outputs key exposed all column member
    have present : outputs ≠ [] := by
      intro none
      rw [(exposedAll?_eq_nil_iff exposed).1 none] at member
      cases member
    obtain ⟨raw', key', _, pinned⟩ :=
      right.reported (coversPrimaryKey_eq_true_iff.2 ⟨raw, outputs, key, exposed, present, all⟩)
    exact pinned column (key.unique key' ▸ member)
  · intro carried
    have reported : plan.coversPrimaryKey = .ok true → plan.Pins := by
      intro covered
      obtain ⟨raw, outputs, key, exposed, present, all⟩ := coversPrimaryKey_eq_true_iff.1 covered
      have present' : raw ≠ [] := fun none => present ((exposedAll?_eq_nil_iff exposed).2 none)
      exact ⟨raw, key, present', carried raw outputs key exposed all⟩
    exact ⟨reported, fun _ executed updates upsert => reported (covered_of_streaming executed updates upsert)⟩

end JoinPlan

/-- Some join over the calculation can have a key on the column. -/
def Calc.Bindable (program : Option Calc) (column : Nat) : Prop :=
  (∃ pair : JoinPair, pair.column? program = some column) ∨
    LookupKeys.Fixes (program.bind Calc.filter) column

/-- If the columns numbered like the outputs of the key can all be bound, the key columns are among them or
fixed by the filter. -/
def LookupTable.Aligned (table : LookupTable) (program : Option Calc) : Prop :=
  ∀ raw outputs, table.RawKey raw → exposedAll? program raw = some outputs →
    (∀ output ∈ outputs, Calc.Bindable program output) →
      ∀ column ∈ raw, column ∈ outputs ∨ LookupKeys.Fixes (program.bind Calc.filter) column

theorem LookupTable.aligned_of_in_place {table : LookupTable} {program : Option Calc}
    (kept : ∀ raw, table.RawKey raw → exposedAll? program raw = some raw) : table.Aligned program := by
  intro raw outputs key exposed _ column member
  have same : raw = outputs := Option.some.inj ((kept raw key).symm.trans exposed)
  exact .inl (same ▸ member)

namespace Calc

def comparison? (program : Calc) (column : Nat) : Option JoinPair :=
  (program.projections.findIdx? fun expr => expr.source? = some column).map fun output => ⟨output, output⟩

variable {program : Calc} {column : Nat} {pair : JoinPair}

theorem comparison?_eq_some (compared : program.comparison? column = some pair) :
    pair.column? (some program) = some column ∧ pair.source < program.projections.length ∧
      pair.target < program.projections.length := by
  obtain ⟨output, found, rfl⟩ := Option.map_eq_some_iff.1 compared
  obtain ⟨inside, forwards, _⟩ := List.findIdx?_eq_some_iff_getElem.1 found
  have landed : program.source? output = some column := by
    rw [source?, projection?, List.getElem?_eq_getElem inside]
    simpa using forwards
  exact ⟨landed, inside, inside⟩

theorem comparison?_of_landed (landed : pair.column? (some program) = some column) :
    ∃ compared, program.comparison? column = some compared := by
  obtain ⟨expr, found, forwards⟩ := Option.bind_eq_some_iff.1 landed
  have found' : program.projections[pair.target]? = some expr := found
  rw [← Option.isSome_iff_exists, comparison?, Option.isSome_map, List.findIdx?_isSome, List.any_eq_true]
  exact ⟨expr, List.mem_of_getElem? found', by simpa using forwards⟩

def comparisons (program : Calc) (columns : List Nat) : List JoinPair := columns.filterMap program.comparison?

theorem settled_of_mem_comparisons {columns : List Nat} (member : pair ∈ program.comparisons columns) :
    pair.Settled (some program) (program.comparisons columns) := by
  obtain ⟨column, _, compared⟩ := List.mem_filterMap.1 member
  have landed := (comparison?_eq_some compared).1
  -- The last pair on the column may be another one, but it compares the same output.
  have landing : (LookupKeys.lastPair? (some program) (program.comparisons columns) column).isSome := by
    rw [LookupKeys.lastPair?, List.find?_isSome]
    exact ⟨pair, List.mem_reverse.2 member, by simpa using landed⟩
  obtain ⟨last, landing⟩ := Option.isSome_iff_exists.1 landing
  obtain ⟨listed, here⟩ := LookupKeys.lastPair?_eq_some landing
  obtain ⟨other, _, compared'⟩ := List.mem_filterMap.1 listed
  have same : other = column := Option.some.inj ((comparison?_eq_some compared').1.symm.trans here)
  rw [same] at compared'
  have identical : last = pair := Option.some.inj (compared'.symm.trans compared)
  exact ⟨column, last, landed, landing, congrArg JoinPair.source identical⟩

end Calc

namespace JoinInput

def comparing (table : LookupTable) (program : Calc) (columns : List Nat) : JoinInput where
  driving := program.output
  table := table
  program := some program
  joinType := .inner
  info := ⟨program.comparisons columns, []⟩

theorem accept_comparing {table : LookupTable} {program : Calc} (lookup : table.capability.lookup = true)
    (input : program.input = table.schema) (columns : List Nat) :
    (comparing table program columns).accept = .ok none := by
  have pairs : ∀ pair ∈ program.comparisons columns,
      pair.source < program.output.length ∧ pair.target < program.output.length := by
    intro pair member
    obtain ⟨column, _, compared⟩ := List.mem_filterMap.1 member
    rw [Calc.length_output]
    exact (Calc.comparison?_eq_some compared).2
  have unread : (comparing table program columns).info.unread (comparing table program columns).keys = [] := by
    refine List.filter_eq_nil_iff.2 fun pair member => ?_
    have read : (comparing table program columns).keys.reads pair.source = true :=
      JoinPair.reads_iff_settled.2 ⟨pair, member, rfl, Calc.settled_of_mem_comparisons member⟩
    simp [read]
  refine accept_eq_ok.2 ⟨⟨lookup, ?_, ?_, pairs, ?_⟩, ?_⟩
  · rintro _ ⟨⟩
    exact input
  · rintro _ ⟨⟩
  · rintro _ ⟨⟩
  · rw [JoinInfo.residual, unread]
    rfl

end JoinInput

namespace JoinPlan

variable {plan : JoinPlan} {program : Calc}

/-- A join over the table and calculation of the plan that binds whichever of the columns it can. -/
def comparing (plan : JoinPlan) (present : plan.input.program = some program) (columns : List Nat) :
    JoinPlan where
  input := .comparing plan.table program columns
  residual := none
  accepted := JoinInput.accept_comparing plan.admissible.lookup (plan.admissible.program program present) columns

theorem contains_comparing {present : plan.input.program = some program} {columns : List Nat} {column : Nat} :
    (plan.comparing present columns).keys.contains column = true ↔
      (∃ pair ∈ program.comparisons columns, pair.column? (some program) = some column) ∨
        LookupKeys.Fixes program.filter column :=
  LookupKeys.contains_analyze_iff

theorem coverageRight_of_aligned (aligned : plan.table.Aligned plan.input.program) : plan.CoverageRight := by
  refine coverageRight_iff.2 fun raw outputs key exposed all column member => ?_
  have bindable : ∀ output ∈ outputs, Calc.Bindable plan.input.program output := by
    intro output inside
    rcases LookupKeys.contains_analyze_iff.1 (all output inside) with ⟨pair, _, landed⟩ | fixed
    · exact .inl ⟨pair, landed⟩
    · exact .inr fixed
  rcases aligned raw outputs key exposed bindable column member with inside | fixed
  · exact all column inside
  · exact LookupKeys.contains_analyze_iff.2 (.inr fixed)

theorem aligned_of_coverageRight (present : plan.input.program = some program)
    (right : ∀ other : JoinPlan, other.table = plan.table → other.input.program = some program →
      other.CoverageRight) : plan.table.Aligned (some program) := by
  intro raw outputs key exposed bindable column member
  -- The join that binds just the columns numbered like the outputs covers the key.
  have all : ∀ output ∈ outputs, (plan.comparing present outputs).keys.contains output = true := by
    intro output inside
    rcases bindable output inside with ⟨pair, landed⟩ | fixed
    · obtain ⟨compared, found⟩ := Calc.comparison?_of_landed landed
      have listed : compared ∈ program.comparisons outputs := List.mem_filterMap.2 ⟨output, inside, found⟩
      exact contains_comparing.2 (.inl ⟨compared, listed, (Calc.comparison?_eq_some found).1⟩)
    · exact contains_comparing.2 (.inr fixed)
  have carried := coverageRight_iff.1 (right (plan.comparing present outputs) rfl rfl) raw outputs key exposed all
  -- Its pairs land on columns asked for, so a key column with a pair is one of these.
  rcases contains_comparing.1 (carried column member) with ⟨pair, listed, landed⟩ | fixed
  · obtain ⟨output, inside, found⟩ := List.mem_filterMap.1 listed
    have same : output = column := Option.some.inj ((Calc.comparison?_eq_some found).1.symm.trans landed)
    exact .inl (same ▸ inside)
  · exact .inr fixed

theorem coverageRight_iff_aligned (plan : JoinPlan) :
    (∀ other : JoinPlan, other.table = plan.table → other.input.program = plan.input.program →
        other.CoverageRight) ↔
      plan.table.Aligned plan.input.program := by
  constructor
  · intro right
    cases present : plan.input.program with
    | none => exact LookupTable.aligned_of_in_place fun _ _ => rfl
    | some program =>
      rw [present] at right
      exact aligned_of_coverageRight present right
  · intro aligned other table calculation
    refine coverageRight_of_aligned ?_
    rw [table, calculation]
    exact aligned

/-- The key column is put out second, and the join compares the column that is second in the table. -/
def shifted : JoinPlan where
  input := {
    driving := [⟨"b", .utf8, false, []⟩]
    table := ⟨"D", [⟨"id", .int32, false, []⟩, ⟨"name", .utf8, true, []⟩], some ["id"], ⟨true, false⟩⟩
    program := some {
      input := [⟨"id", .int32, false, []⟩, ⟨"name", .utf8, true, []⟩]
      columns := [(.ref 1 .utf8, "name"), (.ref 0 .int32, "id")]
      filter := none
      sound := rfl }
    joinType := .inner
    info := ⟨[⟨0, 0⟩], []⟩
    insertOnly := false }
  residual := none
  accepted := rfl

theorem covered_shifted_not_pins :
    build shifted.input = .ok shifted ∧ shifted.coversPrimaryKey = .ok true ∧
      (∃ made, shifted.execution .streaming = .ok made ∧ shifted.input.insertOnly = false ∧
        made.upsert = false) ∧ ¬shifted.Pins := by
  refine ⟨build_eq_ok.2 rfl, rfl, ⟨_, rfl, rfl, rfl⟩, ?_⟩
  rintro ⟨raw, ⟨columns, declared, found⟩, _, pinned⟩
  cases declared
  cases found
  have absent : shifted.keys.contains 0 = false := rfl
  rw [pinned 0 (List.mem_singleton_self 0)] at absent
  cases absent

end JoinPlan

end LookupJoin
