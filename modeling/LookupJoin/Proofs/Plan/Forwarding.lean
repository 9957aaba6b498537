import LookupJoin.Proofs.Agreement
import LookupJoin.Proofs.Metadata
/-!
Calculations that forward every field of the table. Each output of such a calculation is the raw column of
the same number, so key remapping, the row of the lookup side, the checks of a join and the remapping of the
primary key all come out as they do without a calculation. Main statement: a join over the identity
calculation is planned and made ready like the join without one, its projection and the metadata of the
joined row aside.
-/
namespace LookupJoin

namespace Calc

theorem check_forwarded (input : Schema) : check input (forwarded input) none = .ok () := by
  refine check_eq_ok.2 ⟨fun column member => ?_, by simp⟩
  obtain ⟨⟨field, index⟩, listed, rfl⟩ := List.mem_map.1 member
  have found : input[index]? = some field := List.mem_zipIdx_iff_getElem?.1 listed
  refine Expr.validate_eq_ok.2 fun ref read => ?_
  obtain rfl := List.mem_singleton.1 read
  exact ⟨field, found, rfl⟩

def forwarding (input : Schema) : Calc := ⟨input, forwarded input, none, check_forwarded input⟩

theorem identity_eq_ok (input : Schema) : identity input none = .ok (forwarding input) :=
  build_eq_ok_iff.2 ⟨check_forwarded input, rfl, rfl, rfl⟩

theorem getElem?_forwarded (input : Schema) (index : Nat) :
    (forwarded input)[index]? = input[index]?.map fun field => (.ref index field.type, field.name) := by
  rw [forwarded, List.getElem?_map, List.getElem?_zipIdx]
  cases input[index]? <;> simp

theorem projection?_forwarding (input : Schema) (ordinal : Nat) :
    (forwarding input).projection? ordinal = input[ordinal]?.map fun field => .ref ordinal field.type := by
  rw [projection?, projections, List.getElem?_map, forwarding, getElem?_forwarded, Option.map_map]
  rfl

/-- What is forwarded comes out under its name, with its type and nullability, but without its metadata. -/
theorem output_of_columns {program : Calc} (columns : program.columns = forwarded program.input) :
    program.output = program.input.bare := by
  refine List.ext_getElem? fun index => ?_
  rw [output, columns, List.getElem?_map, getElem?_forwarded, Schema.getElem?_bare]
  cases found : program.input[index]? with
  | none => rfl
  | some field => simp [outputField, FieldOf.bare, Expr.type, Expr.nullable, found]

theorem output_forwarding (input : Schema) : (forwarding input).output = input.bare := output_of_columns rfl

theorem source?_forwarding {input : Schema} {ordinal : Nat} (inside : ordinal < input.length) :
    (forwarding input).source? ordinal = some ordinal := by
  rw [source?, projection?_forwarding, List.getElem?_eq_getElem inside]
  rfl

end Calc

open Calc

theorem LookupKeys.analyze_forwarding {schema : Schema} {pairs : List JoinPair}
    (inside : ∀ pair ∈ pairs, pair.target < schema.length) :
    analyze pairs (some (forwarding schema)) = analyze pairs none := by
  have remapped : remap (some (forwarding schema)) pairs = remap none pairs := by
    refine List.filterMap_congr fun pair member => ?_
    rw [JoinPair.remap?, JoinPair.column?, source?_forwarding (inside pair member)]
    rfl
  rw [analyze, ofPairs, remapped]
  rfl

namespace PrimaryKey

theorem exposed?_forwarding {schema : Schema} {column : Nat} (inside : column < schema.length) :
    exposed? (forwarding schema) column = some column := by
  have plain (index : Nat) (below : index < (forwarding schema).projections.length) :
      (forwarding schema).projections[index].index? = some index := by
    have found : (forwarding schema).projection? index = some (forwarding schema).projections[index] :=
      List.getElem?_eq_getElem below
    rw [projection?_forwarding] at found
    obtain ⟨field, _, same⟩ := Option.map_eq_some_iff.1 found
    rw [← same]
    rfl
  have length : (forwarding schema).projections.length = schema.length := by
    rw [← length_output, output_forwarding, Schema.length_bare]
  refine List.findIdx?_eq_some_iff_getElem.2 ⟨length ▸ inside, by simp [plain], fun earlier below => ?_⟩
  simp [plain, Nat.ne_of_lt below]

theorem lt_length_of_rawIndices {table : String} {schema : Schema} {columns : List String} {raw : List Nat}
    (found : rawIndices table schema columns = .ok raw) : ∀ column ∈ raw, column < schema.length := by
  intro column member
  obtain ⟨name, _, here⟩ := Outcome.exists_of_mem_mapM found column member
  unfold columnIndex at here
  split at here
  next index first =>
    cases here
    exact (List.findIdx?_eq_some_iff_getElem.1 first).1
  next => cases here

theorem exposedAll_forwarding {schema : Schema} {raw : List Nat}
    (inside : ∀ column ∈ raw, column < schema.length) :
    raw.mapM (exposed? (forwarding schema)) = some raw := by
  induction raw with
  | nil => rfl
  | cons column rest ih =>
    obtain ⟨first, others⟩ := List.forall_mem_cons.1 inside
    rw [List.mapM_cons, exposed?_forwarding first, ih others]
    rfl

theorem outputIndices_forwarding (table : String) (primaryKey : Option (List String)) (schema : Schema) :
    outputIndices table primaryKey schema (some (forwarding schema)) =
      outputIndices table primaryKey schema none := by
  cases primaryKey with
  | none => rfl
  | some columns =>
    refine Outcome.bind_congr_of_ok fun raw found => ?_
    simp only [exposedAll_forwarding (lt_length_of_rawIndices found)]

end PrimaryKey

namespace JoinInput

/-- The join over a calculation that forwards every field. -/
def forwarded (input : JoinInput) : JoinInput :=
  { input with program := some (forwarding input.table.schema) }

variable {input : JoinInput}

theorem lookupSide_forwarded (plain : input.program = none) : input.forwarded.lookupSide = input.lookupSide.bare := by
  have raw : input.lookupSide = input.table.schema := by rw [lookupSide, plain]
  rw [raw]
  exact output_forwarding input.table.schema

theorem bare_row_forwarded (plain : input.program = none) : input.forwarded.row.bare = input.row.bare := by
  rw [row, row, JoinType.bare_joinedRow, JoinType.bare_joinedRow, lookupSide_forwarded plain, Schema.bare_bare]
  rfl

theorem keys_forwarded (plain : input.program = none)
    (inside : ∀ pair ∈ input.info.pairs, pair.target < input.lookupSide.length) :
    input.forwarded.keys = input.keys := by
  rw [lookupSide, plain] at inside
  rw [keys, keys, plain]
  exact LookupKeys.analyze_forwarding inside

theorem accept_forwarded (plain : input.program = none) : input.forwarded.accept = input.accept := by
  have program : input.forwarded.checkProgram = input.checkProgram := by
    have passed : input.checkProgram = .ok () := checkProgram_eq_ok.2 (by simp [plain])
    have passed' : input.forwarded.checkProgram = .ok () := by
      refine checkProgram_eq_ok.2 fun program member => ?_
      cases member
      rfl
    rw [passed, passed']
  have pairs : input.forwarded.checkPair = input.checkPair := by
    funext pair
    rw [checkPair, checkPair, lookupSide_forwarded plain, Schema.length_bare]
    rfl
  have conditions : Expr.validatePredicate input.forwarded.row = Expr.validatePredicate input.row := by
    rw [← Expr.validatePredicate_bare, bare_row_forwarded plain, Expr.validatePredicate_bare]
  have residual (keys : LookupKeys) (drivingLen : Nat) :
      input.info.residual keys drivingLen input.forwarded.row = input.info.residual keys drivingLen input.row := by
    rw [← JoinInfo.residual_bare, bare_row_forwarded plain, JoinInfo.residual_bare]
  rw [accept, accept, program, pairs, conditions]
  refine Outcome.bind_congr_of_ok fun _ _ => Outcome.bind_congr_of_ok fun _ _ => ?_
  refine Outcome.bind_congr_of_ok fun _ _ => Outcome.bind_congr_of_ok fun _ checked => ?_
  -- Keys are the same only for targets in range, which the check of the pairs has seen to.
  have inside : ∀ pair ∈ input.info.pairs, pair.target < input.lookupSide.length :=
    fun pair member => (checkPair_eq_ok.1 (Outcome.forM_eq_ok.1 checked pair member)).2
  rw [keys_forwarded plain inside]
  exact congrArg (· >>= _) (residual input.keys input.driving.length)

end JoinInput

def Execution.unprojected (made : Execution) : Execution :=
  { made with projection := none, row := made.row.bare }

namespace JoinPlan

/-- The same plan, the calculation and the metadata of the joined row aside. -/
structure Alike (plan other : JoinPlan) : Prop where
  keys : plan.keys = other.keys
  residual : plan.residual = other.residual
  async : plan.asyncOptions = other.asyncOptions
  row : plan.row.bare = other.row.bare
  primaryKey : plan.primaryKey = other.primaryKey
  coverage : plan.coversPrimaryKey = other.coversPrimaryKey
  execution : ∀ mode, Outcome.Agree (fun made made' => made.unprojected = made'.unprojected)
    (plan.execution mode) (other.execution mode)

theorem alike_of_forwarded {plan other : JoinPlan} (plain : plan.input.program = none)
    (input : other.input = plan.input.forwarded) (residual : plan.residual = other.residual) :
    Alike plan other := by
  obtain ⟨_, _, accepted⟩ := other
  cases input
  cases residual
  let other : JoinPlan := ⟨plan.input.forwarded, plan.residual, accepted⟩
  have inside : ∀ pair ∈ plan.input.info.pairs, pair.target < plan.input.lookupSide.length :=
    fun pair member => (plan.admissible.pairs pair member).2
  have keys : plan.keys = other.keys := (JoinInput.keys_forwarded plain inside).symm
  have row : plan.row.bare = other.row.bare := (JoinInput.bare_row_forwarded plain).symm
  have primaryKey : plan.primaryKey = other.primaryKey := by
    rw [JoinPlan.primaryKey, plain]
    exact (PrimaryKey.outputIndices_forwarding _ _ _).symm
  have coverage : plan.coversPrimaryKey = other.coversPrimaryKey := by
    rw [coversPrimaryKey, coversPrimaryKey, primaryKey, keys]
  have made (async : AsyncOptions) (retry : Option Retry) (covered upsert : Bool) :
      (plan.executionWith async retry covered upsert).unprojected =
        (other.executionWith async retry covered upsert).unprojected := by
    rw [Execution.unprojected, Execution.unprojected, executionWith, executionWith, keys, row, plain]
    rfl
  exact {
    keys, row, primaryKey, coverage
    residual := rfl
    async := rfl
    execution := agree_execution (checkKeys_congr keys rfl rfl rfl) coverage (made _ _ _ _) fun _ => made _ _ _ _ }

theorem build_identity {input : JoinInput} (plain : input.program = none) :
    ∃ program, Calc.identity input.table.schema none = .ok program ∧
      Outcome.Agree Alike (build input) (build { input with program := some program }) := by
  refine ⟨forwarding input.table.schema, identity_eq_ok _, ?_⟩
  refine agree_build (.of_eq (JoinInput.accept_forwarded plain).symm) fun plan other same same' residual => ?_
  subst same
  exact alike_of_forwarded plain same' residual

def youngerVisitors : JoinPlan where
  input := {
    driving := [⟨"visitor", .int32, false, []⟩, ⟨"limit", .int32, true, []⟩]
    table := ⟨"D", [⟨"id", .int32, false, []⟩, ⟨"age", .int32, true, [("unit", "years")]⟩], some ["id"], ⟨true, true⟩⟩
    joinType := .leftOuter
    info := ⟨[⟨0, 0⟩], [.call .lt [.ref 3 .int32, .ref 1 .int32] .boolean]⟩
    insertOnly := false }
  residual := some (.call .lt [.ref 3 .int32, .ref 1 .int32] .boolean)
  accepted := rfl

theorem build_identity_youngerVisitors :
    youngerVisitors.input.program = none ∧ build youngerVisitors.input = .ok youngerVisitors ∧
      ∃ program, Calc.identity youngerVisitors.input.table.schema none = .ok program ∧
        Outcome.Agree Alike (build youngerVisitors.input) (build { youngerVisitors.input with program := some program }) :=
  ⟨rfl, build_eq_ok.2 rfl, build_identity rfl⟩

end JoinPlan

end LookupJoin
