import LookupJoin.Proofs.Expr.Nullability
import LookupJoin.Proofs.Plan.Accepted
/-!
Rows as they are declared. The output of a calculation declares each column by the nullability of its
expression, and the joined row makes the lookup side nullable where a row without a match is filled with nulls.
Main statements: rows that conform to the table and to the driving side make output rows and joined rows that
conform to theirs, and a driving row filled up with nulls conforms to the joined row of a left outer join; so
it is for all rows a planned join puts out.
-/
namespace LookupJoin

universe u

namespace Evaluation

variable {Value : Type u} {evaluation : Evaluation Value} {driving lookup : Schema}
  {drivingRow lookupRow raw : List Value}

def calculated (evaluation : Evaluation Value) (program : Calc) (raw : List Value) : List Value :=
  program.projections.map (evaluation.value raw)

theorem conforms_calculated {program : Calc} (conforms : evaluation.Conforms program.input raw) :
    evaluation.Conforms program.output (evaluation.calculated program raw) := by
  rw [Conforms, Calc.output, calculated, Calc.projections, List.forall₂_map_left_iff,
    List.forall₂_map_right_iff, List.forall₂_map_right_iff, List.forall₂_same]
  intro column member null
  have valid := (Calc.check_eq_ok.1 program.sound).1 column member
  exact nullable_of_null conforms valid null

theorem conforms_joined (joinType : JoinType) (left : evaluation.Conforms driving drivingRow)
    (right : evaluation.Conforms lookup lookupRow) :
    evaluation.Conforms (joinType.joinedRow driving lookup) (drivingRow ++ lookupRow) := by
  refine List.rel_append left (List.forall₂_map_left_iff.2 (right.imp fun field held allowed null => ?_))
  rw [JoinType.lookupField, allowed null, Bool.true_or]

theorem conforms_filled (left : evaluation.Conforms driving drivingRow)
    (width : lookupRow.length = lookup.length) :
    evaluation.Conforms (JoinType.leftOuter.joinedRow driving lookup) (drivingRow ++ lookupRow) := by
  refine List.rel_append left (List.forall₂_map_left_iff.2 ?_)
  exact List.forall₂_iff_get.2 ⟨width.symm, fun _ _ _ _ => Bool.or_true _⟩

end Evaluation

namespace Calc

variable {Value : Type u}

theorem emitted_rows_conform (evaluation : Evaluation Value) (program : Calc) (joinType : JoinType)
    {driving : Schema} {drivingRow raw : List Value} (rawConforms : evaluation.Conforms program.input raw)
    (drivingConforms : evaluation.Conforms driving drivingRow) :
    evaluation.Conforms program.output (evaluation.calculated program raw) ∧
      evaluation.Conforms (joinType.joinedRow driving program.output)
        (drivingRow ++ evaluation.calculated program raw) ∧
      ∀ absent, evaluation.null absent →
        evaluation.Conforms (JoinType.leftOuter.joinedRow driving program.output)
          (drivingRow ++ List.replicate program.output.length absent) := by
  have output := Evaluation.conforms_calculated rawConforms
  refine ⟨output, Evaluation.conforms_joined joinType drivingConforms output, fun absent _ => ?_⟩
  exact Evaluation.conforms_filled drivingConforms List.length_replicate

def labelled : Calc where
  input := [⟨"id", .int32, false, []⟩, ⟨"name", .utf8, true, []⟩]
  columns := [(.call .cast [.ref 0 .int32] .int64, "id"), (.ref 1 .utf8, "name"),
    (.call (.function "UPPER") [.ref 1 .utf8] .utf8, "label")]
  filter := none
  sound := rfl

theorem emitted_labelled_conform :
    Evaluation.pessimistic.Conforms labelled.input labelled.input ∧
      Evaluation.pessimistic.Conforms labelled.output
        (Evaluation.pessimistic.calculated labelled labelled.input) ∧
      Evaluation.pessimistic.Conforms (JoinType.semi.joinedRow labelled.input labelled.output)
        (labelled.input ++ Evaluation.pessimistic.calculated labelled labelled.input) ∧
      ∀ absent, Evaluation.pessimistic.null absent →
        Evaluation.pessimistic.Conforms (JoinType.leftOuter.joinedRow labelled.input labelled.output)
          (labelled.input ++ List.replicate labelled.output.length absent) := by
  have raw := Evaluation.conforms_pessimistic labelled.input
  exact ⟨raw, emitted_rows_conform Evaluation.pessimistic labelled .semi raw raw⟩

end Calc

namespace JoinPlan

variable {Value : Type u} {evaluation : Evaluation Value} {drivingRow raw : List Value}

/-- What a planned join sees of a row of its table. -/
def seen (plan : JoinPlan) (evaluation : Evaluation Value) (raw : List Value) : List Value :=
  match plan.input.program with
  | some program => evaluation.calculated program raw
  | none => raw

theorem conforms_seen {plan : JoinPlan} (conforms : evaluation.Conforms plan.table.schema raw) :
    evaluation.Conforms plan.input.lookupSide (plan.seen evaluation raw) := by
  cases present : plan.input.program with
  | none =>
    simp only [JoinInput.lookupSide, seen, present]
    exact conforms
  | some program =>
    have same : program.input = plan.table.schema := plan.admissible.program program present
    simp only [JoinInput.lookupSide, seen, present]
    exact Evaluation.conforms_calculated (same ▸ conforms)

theorem conforms_row {plan : JoinPlan} (left : evaluation.Conforms plan.input.driving drivingRow)
    (right : evaluation.Conforms plan.table.schema raw) :
    evaluation.Conforms plan.row (drivingRow ++ plan.seen evaluation raw) :=
  Evaluation.conforms_joined plan.input.joinType left (conforms_seen right)

theorem conforms_row_filled {plan : JoinPlan} (outer : plan.input.joinType = .leftOuter)
    (left : evaluation.Conforms plan.input.driving drivingRow) (absent : Value) :
    evaluation.Conforms plan.row (drivingRow ++ List.replicate plan.input.lookupSide.length absent) := by
  rw [row, JoinInput.row, outer]
  exact Evaluation.conforms_filled left List.length_replicate

end JoinPlan

end LookupJoin
