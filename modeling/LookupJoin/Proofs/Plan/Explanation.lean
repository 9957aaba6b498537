import LookupJoin.Explain
import LookupJoin.Proofs.Expr.Wording
import LookupJoin.Proofs.Plan.KeyFit
import LookupJoin.Proofs.Residual
/-!
What the explanation of a plan tells. Each part is told in the names of the row it is about: keys in those of the
table and of the driving row, the filter and the columns of a calculation in those of the table, the condition left
over in those of the joined row. None of the parts can be told by an index alone. Main statement: the explanation of
a plan tells its keys in the order of their columns, and all its other expressions, in names of fields.
-/
namespace LookupJoin

namespace Explanation

/-- The name of the column, and the literal it is fixed to or the name of the driving field. -/
inductive KeyTold (raw driving : Schema) : Nat × LookupKey → String → Prop
  | constant {column : Nat} {target : Field} (found : raw[column]? = some target) (type : DataType)
      (value : Scalar) : KeyTold raw driving (column, .constant type value) (target.name ++ "=" ++ value.sql)
  | field {column source : Nat} {target field : Field} (found : raw[column]? = some target)
      (read : driving[source]? = some field) :
    KeyTold raw driving (column, .field source) (target.name ++ "=" ++ field.name)

/-- What is put out, under the name of the field it is put out as, where that is not its text already. -/
inductive ColumnTold (raw : Schema) : Expr × Field → String → Prop
  | plain {expr : Expr} {output : Field} (told : expr.Told raw output.name) :
    ColumnTold raw (expr, output) output.name
  | named {expr : Expr} {output : Field} {shown : String} (told : expr.Told raw shown)
      (other : shown ≠ output.name) : ColumnTold raw (expr, output) (shown ++ " AS " ++ output.name)

structure ColumnsTold (raw : Schema) (program : Calc) (texts : List String) : Prop where
  count : texts.length = program.projections.length
  each : List.Forall₂ (ColumnTold raw) (program.projections.zip program.output) texts

structure Tells (plan : JoinPlan) (explanation : Explanation) : Prop where
  lookup : ∃ entries, LookupKeys.Ascending entries ∧
    (∀ column key, (column, key) ∈ entries ↔ plan.keys.get? column = some key) ∧
      List.Forall₂ (KeyTold plan.table.schema plan.input.driving) entries explanation.lookup
  filter : Option.Rel (Expr.Told plan.table.schema) (plan.input.program.bind Calc.filter) explanation.filter
  projection : Option.Rel (ColumnsTold plan.table.schema) plan.input.program explanation.projection
  joinCondition : Option.Rel (Expr.Told plan.row) plan.residual explanation.joinCondition

variable {plan : JoinPlan}

theorem told_display {row : Schema} {expr : Expr} (valid : expr.validate row = .ok ()) :
    expr.Told row (expr.display row) :=
  Expr.told_iff.2 ⟨fun _ member => Expr.ref_lt_length valid member, rfl⟩

theorem keyTold_of_fits {column : Nat} {key : LookupKey} (fits : plan.KeyFits column key) :
    KeyTold plan.table.schema plan.input.driving (column, key)
      (keyText plan.table.schema plan.input.driving (column, key)) := by
  have target := List.getElem?_eq_getElem fits.inside
  cases key with
  | constant type value =>
    rw [keyText, Expr.nameAt_of_found target]
    exact .constant target type value
  | field source =>
    have field := List.getElem?_eq_getElem (fits.source source rfl)
    simp only [keyText, Expr.nameAt_of_found target, Expr.nameAt_of_found field]
    exact .field target field

theorem columnTold (raw : Schema) {column : Expr × String} (valid : column.1.validate raw = .ok ()) :
    ColumnTold raw (column.1, Calc.outputField raw column) (columnText raw column) := by
  have told := told_display valid
  by_cases same : column.1.display raw = column.2
  · rw [columnText, if_pos same]
    rw [same] at told ⊢
    exact .plain told
  · rw [columnText, if_neg same]
    exact .named told same

theorem columnsTold (program : Calc) :
    ColumnsTold program.input program (program.columns.map (columnText program.input)) where
  count := by rw [List.length_map, Calc.projections, List.length_map]
  each := by
    rw [Calc.projections, Calc.output, List.zip_map', List.forall₂_map_left_iff, List.forall₂_map_right_iff,
      List.forall₂_same]
    exact fun column member => columnTold program.input ((Calc.check_eq_ok.1 program.sound).1 column member)

theorem input_of_program {program : Calc} (present : plan.input.program = some program) :
    program.input = plan.table.schema :=
  plan.admissible.program program present

theorem tells_ofPlan (plan : JoinPlan) : Tells plan (ofPlan plan) where
  lookup := by
    refine ⟨plan.keys.entries, plan.keys.ascending, fun _ _ => LookupKeys.get?_eq_some_iff.symm, ?_⟩
    rw [ofPlan, List.forall₂_map_right_iff, List.forall₂_same]
    exact fun entry member => keyTold_of_fits (plan.keyFits_of_get? (LookupKeys.get?_eq_some_iff.2 member))
  filter := by
    show Option.Rel _ _ (plan.input.program.bind fun program => program.filter.map (Expr.display program.input))
    cases present : plan.input.program with
    | none => exact .none
    | some program =>
      rw [Option.bind_some, Option.bind_some, ← input_of_program present]
      exact rel_map_right fun predicate filtered => told_display (Calc.validate_filter filtered)
  projection := by
    refine rel_map_right fun program present => ?_
    rw [← input_of_program present]
    exact columnsTold program
  joinCondition := by
    have predicates := fun condition member => (plan.admissible.conditions condition member).1
    exact rel_map_right fun predicate left =>
      told_display (JoinInfo.validate_residual plan.residual_built predicates predicate left)

end Explanation

end LookupJoin
