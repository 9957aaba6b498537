import LookupJoin.Proofs.Execution
import LookupJoin.Proofs.Plan.Accepted
/-!
What a plan takes from its driving row. References are built, equalities compared and conditions checked by the
types of the fields, so a row with the same types in the same places serves as well. Main statement: over such a
row, whatever the names, the nullability and the metadata of its fields, a plan is planned again and made ready as
before, with nothing changed but the driving part of the joined row.
-/
namespace LookupJoin

namespace Schema

def types (row : Schema) : List DataType := row.map FieldOf.type

variable {row row' : Schema}

theorem length_eq_of_types (types : row.types = row'.types) : row.length = row'.length := by
  have lengths := congrArg List.length types
  rwa [Schema.types, Schema.types, List.length_map, List.length_map] at lengths

theorem type_eq_of_types (types : row.types = row'.types) (index : Nat) :
    row[index]?.map FieldOf.type = row'[index]?.map FieldOf.type := by
  rw [← List.getElem?_map, ← List.getElem?_map]
  exact congrArg (·[index]?) types

end Schema

theorem JoinType.types_joinedRow (joinType : JoinType) (driving lookup : Schema) :
    (joinType.joinedRow driving lookup).types = driving.types ++ lookup.types := by
  simp only [joinedRow, Schema.types, List.map_append, List.map_map]
  rfl

section Types

variable {row row' : Schema} (types : row.types = row'.types)
include types

theorem Expr.column_of_types : column row = column row' := by
  funext index
  have length := Schema.length_eq_of_types types
  have type := Schema.type_eq_of_types types index
  rw [column, column]
  cases found : row[index]? <;> cases found' : row'[index]? <;> simp_all

theorem Expr.validate_of_types {expr : Expr} (valid : expr.validate row = .ok ()) : expr.validate row' = .ok () := by
  refine validate_eq_ok.2 fun ref read => ?_
  obtain ⟨field, found, typed⟩ := validate_eq_ok.1 valid ref read
  have same := Schema.type_eq_of_types types ref.1
  rw [found] at same
  obtain ⟨field', found', typed'⟩ := Option.map_eq_some_iff.1 same.symm
  exact ⟨field', found', typed'.trans typed⟩

theorem JoinInfo.residual_of_types (info : JoinInfo) (keys : LookupKeys) (drivingLen : Nat) :
    info.residual keys drivingLen row = info.residual keys drivingLen row' := by
  have equalities : equality drivingLen row = equality drivingLen row' := by
    funext pair
    rw [equality, equality, Expr.column_of_types types]
  rw [residual, residual, equalities]

end Types

namespace JoinInput

def withDriving (input : JoinInput) (driving : Schema) : JoinInput := { input with driving }

variable {input : JoinInput} {driving : Schema} {residual : Option Expr}

theorem types_row_withDriving (types : input.driving.types = driving.types) :
    input.row.types = (input.withDriving driving).row.types := by
  calc input.row.types
      _ = input.driving.types ++ input.lookupSide.types := JoinType.types_joinedRow ..
      _ = driving.types ++ input.lookupSide.types := by rw [types]
      _ = (input.withDriving driving).row.types := (JoinType.types_joinedRow ..).symm

theorem accept_withDriving (types : input.driving.types = driving.types) (accepted : input.accept = .ok residual) :
    (input.withDriving driving).accept = .ok residual := by
  obtain ⟨admissible, built⟩ := accept_eq_ok.1 accepted
  have row := types_row_withDriving types
  have length : input.driving.length = driving.length := Schema.length_eq_of_types types
  refine accept_eq_ok.2 ⟨?_, ?_⟩
  · exact { admissible with
      pairs := length ▸ admissible.pairs
      conditions := fun condition member =>
        ⟨Expr.validate_of_types row (admissible.conditions condition member).1,
          (admissible.conditions condition member).2⟩ }
  · rw [JoinInfo.residual_of_types row, length] at built
    exact built

end JoinInput

namespace JoinPlan

variable {plan other : JoinPlan} {driving : Schema}

def onto (plan : JoinPlan) (driving row : Schema) : Schema := driving ++ row.drop plan.input.driving.length

/-- The same plan, the driving part of the joined row aside. -/
structure Carried (plan other : JoinPlan) : Prop where
  keys : other.keys = plan.keys
  residual : other.residual = plan.residual
  async : other.asyncOptions = plan.asyncOptions
  row : other.row = plan.onto other.input.driving plan.row
  execution : ∀ mode made, other.execution mode = .ok made ↔
    ∃ before, plan.execution mode = .ok before ∧
      made = { before with row := plan.onto other.input.driving before.row }

theorem checkKey_of_types (types : plan.input.driving.types = driving.types)
    (input : other.input = plan.input.withDriving driving) {entry : Nat × LookupKey}
    (passed : plan.checkKey entry = .ok ()) : other.checkKey entry = .ok () := by
  obtain ⟨column, key⟩ := entry
  cases key with
  | constant type value => rfl
  | field source =>
    obtain ⟨target, field, present, found, fits⟩ := checkKey_field_eq_ok.1 passed
    have type := Schema.type_eq_of_types types source
    rw [found] at type
    obtain ⟨field', found', same⟩ := Option.map_eq_some_iff.1 type.symm
    refine checkKey_field_eq_ok.2 ⟨target, field', ?_, ?_, same ▸ fits⟩
    · rw [table, input]
      exact present
    · rw [input]
      exact found'

theorem checkKeys_of_types (types : plan.input.driving.types = driving.types)
    (input : other.input = plan.input.withDriving driving) (passed : plan.checkKeys = .ok ()) :
    other.checkKeys = .ok () := by
  have keys : other.keys = plan.keys := by
    rw [JoinPlan.keys, input]
    rfl
  obtain ⟨some, each⟩ := checkKeys_eq_ok.1 passed
  rw [← keys] at some each
  exact checkKeys_eq_ok.2 ⟨some, fun entry member => checkKey_of_types types input (each entry member)⟩

section Retyped

variable (types : plan.input.driving.types = driving.types)

def retyped : JoinPlan :=
  ⟨plan.input.withDriving driving, plan.residual, JoinInput.accept_withDriving types plan.accepted⟩

theorem checkKeys_retyped : (retyped types).checkKeys = .ok () ↔ plan.checkKeys = .ok () := by
  constructor
  · intro passed
    have back : plan.input = (retyped types).input.withDriving plan.input.driving := rfl
    exact checkKeys_of_types types.symm back passed
  · intro passed
    exact checkKeys_of_types types rfl passed

theorem row_retyped : (retyped types).row = plan.onto driving plan.row := by
  have side : plan.row.drop plan.input.driving.length = plan.input.lookupSide.map plan.input.joinType.lookupField :=
    List.drop_left
  rw [onto, side]
  rfl

theorem finish_retyped (mode : ExecutionMode) :
    (retyped types).finish mode = (plan.finish mode).map fun made => { made with row := plan.onto driving made.row } := by
  have made (async : AsyncOptions) (retry : Option Retry) (covered upsert : Bool) :
      (retyped types).executionWith async retry covered upsert =
        { plan.executionWith async retry covered upsert with row := plan.onto driving plan.row } := by
    rw [executionWith, row_retyped]
    rfl
  have covers : (retyped types).coversPrimaryKey = plan.coversPrimaryKey := rfl
  cases mode with
  | batch => exact congrArg Except.ok (made _ _ _ _)
  | streaming =>
    rw [finish, finish, covers]
    cases plan.coversPrimaryKey with
    | ok covered => exact congrArg Except.ok (made _ _ _ _)
    | error fault => rfl

theorem execution_retyped (mode : ExecutionMode) (made : Execution) :
    (retyped types).execution mode = .ok made ↔
      ∃ before, plan.execution mode = .ok before ∧ made = { before with row := plan.onto driving before.row } := by
  rw [execution_eq_ok, checkKeys_retyped, finish_retyped, Outcome.map_eq_ok]
  constructor
  · intro executed
    obtain ⟨checked, before, finished, rfl⟩ := executed
    exact ⟨before, execution_eq_ok.2 ⟨checked, finished⟩, rfl⟩
  · intro executed
    obtain ⟨before, executed, rfl⟩ := executed
    obtain ⟨checked, finished⟩ := execution_eq_ok.1 executed
    exact ⟨checked, before, finished, rfl⟩

end Retyped

theorem withDriving_of_types (types : plan.input.driving.types = driving.types) :
    ∃ other, plan.withDriving driving = .ok other ∧ other.input.driving = driving ∧ Carried plan other := by
  have planned : plan.withDriving driving = .ok (retyped types) := build_eq_ok.2 rfl
  have carried : Carried plan (retyped types) := {
    keys := rfl
    residual := rfl
    async := rfl
    row := row_retyped types
    execution := execution_retyped types }
  exact ⟨retyped types, planned, rfl, carried⟩

def limited : JoinPlan where
  input := {
    driving := [⟨"visitor", .int32, false, []⟩, ⟨"limit", .int32, false, []⟩, ⟨"name", .utf8, true, []⟩]
    table := ⟨"D", [⟨"id", .int64, false, []⟩, ⟨"age", .int32, true, []⟩, ⟨"nick", .utf8, true, []⟩], some ["id"],
      ⟨true, true⟩⟩
    program := some {
      input := [⟨"id", .int64, false, []⟩, ⟨"age", .int32, true, []⟩, ⟨"nick", .utf8, true, []⟩]
      columns := [(.ref 0 .int64, "id"), (.ref 1 .int32, "age"), (.call (.function "UPPER") [.ref 2 .utf8] .utf8, "nick")]
      filter := none
      sound := rfl }
    joinType := .leftOuter
    info := ⟨[⟨0, 0⟩, ⟨2, 2⟩], [.call .lt [.ref 4 .int32, .ref 1 .int32] .boolean]⟩ }
  residual := some (.call .and [.call .eq [.ref 2 .utf8, .ref 5 .utf8] .boolean,
    .call .lt [.ref 4 .int32, .ref 1 .int32] .boolean] .boolean)
  accepted := rfl

def renamed : Schema := [⟨"x", .int32, true, [("unit", "none")]⟩, ⟨"x", .int32, true, []⟩, ⟨"y", .utf8, false, []⟩]

theorem limited_withDriving_renamed :
    limited.input.driving.types = renamed.types ∧ (∃ made, limited.execution .streaming = .ok made) ∧
      ∃ other, limited.withDriving renamed = .ok other ∧ other.input.driving = renamed ∧ Carried limited other := by
  have types : limited.input.driving.types = renamed.types := rfl
  have checked : limited.checkKeys = .ok () := rfl
  have finished : limited.finish .streaming = .ok _ := rfl
  exact ⟨types, ⟨_, execution_eq_ok.2 ⟨checked, finished⟩⟩, withDriving_of_types types⟩

end JoinPlan

end LookupJoin
