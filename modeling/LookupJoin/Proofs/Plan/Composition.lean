import LookupJoin.DataType.Castable
import LookupJoin.Proofs.Plan.Accepted
import LookupJoin.Proofs.Residual
/-!
How the parts of a plan fit together. The joined row has the fields of the driving row and after them those of
the lookup side. The residual is put together of equalities, made for that row, and of the conditions the join
came with, which may have been put together by hand. Main statement: with well-formed conditions the residual is
well formed, boolean, and reads fields of the joined row with their types.
-/
namespace LookupJoin

theorem JoinType.lookupField_eq (joinType : JoinType) (field : Field) :
    joinType.lookupField field =
      if joinType = .leftOuter then { field with nullable := true } else field := by
  cases joinType <;> simp [lookupField, fillsNulls]

namespace JoinPlan

/-- The joined row is the driving row, followed by the lookup side as the join type leaves it. -/
structure RowComposed (plan : JoinPlan) : Prop where
  width : plan.row.length = plan.input.driving.length + plan.input.lookupSide.length
  driving : ∀ index < plan.input.driving.length, plan.row[index]? = plan.input.driving[index]?
  lookup : ∀ index, plan.row[plan.input.driving.length + index]? =
    plan.input.lookupSide[index]?.map fun field =>
      if plan.input.joinType = .leftOuter then { field with nullable := true } else field

variable {casts : CastRule} {plan : JoinPlan}

theorem rowComposed (plan : JoinPlan) : plan.RowComposed where
  width := plan.input.length_row
  driving := fun _ inside => JoinType.joinedRow_driving inside
  lookup := fun index => by
    rw [row, JoinInput.row, JoinType.joinedRow_lookup, funext (JoinType.lookupField_eq plan.input.joinType)]

theorem predicateOn_condition {condition : Expr} (member : condition ∈ plan.input.info.conditions)
    (formed : condition.WellFormed casts) : Expr.PredicateOn casts plan.row condition := by
  obtain ⟨valid, boolean⟩ := plan.admissible.conditions condition member
  exact ⟨formed, boolean, valid⟩

theorem residual_fits_row (formed : ∀ condition ∈ plan.input.info.conditions, condition.WellFormed casts) :
    plan.RowComposed ∧ ∀ predicate ∈ plan.residual, Expr.PredicateOn casts plan.row predicate := by
  have conditions : ∀ condition ∈ plan.input.info.conditions, Expr.PredicateOn casts plan.row condition :=
    fun condition member => predicateOn_condition member (formed condition member)
  exact ⟨rowComposed plan, JoinInfo.predicateOn_residual plan.residual_built conditions⟩

def ofAge : Expr := .call .gt [.ref 4 .int32, .lit (.int true .w32 (some 18)) .int32] .boolean

def shouted : JoinPlan where
  input := {
    driving := [⟨"a", .int64, false, []⟩, ⟨"b", .utf8, false, []⟩]
    table := ⟨"D", [⟨"id", .int32, false, []⟩, ⟨"name", .utf8, false, []⟩, ⟨"age", .int32, false, []⟩],
      some ["id"], ⟨true, false⟩⟩
    program := some {
      input := [⟨"id", .int32, false, []⟩, ⟨"name", .utf8, false, []⟩, ⟨"age", .int32, false, []⟩]
      columns := [(.ref 0 .int32, "id"), (.call (.function "UPPER") [.ref 1 .utf8] .utf8, "shout"),
        (.ref 2 .int32, "age")]
      filter := none
      sound := rfl }
    joinType := .leftOuter
    info := ⟨[⟨0, 0⟩, ⟨1, 1⟩], [ofAge]⟩ }
  residual := some (.call .and [.call .eq [.ref 1 .utf8, .ref 3 .utf8] .boolean, ofAge] .boolean)
  accepted := rfl

theorem residual_fits_shouted :
    (∀ condition ∈ shouted.input.info.conditions, condition.WellFormed DataType.castable) ∧ shouted.RowComposed ∧
      ∀ predicate ∈ shouted.residual, Expr.PredicateOn DataType.castable shouted.row predicate := by
  have formed : ∀ condition ∈ shouted.input.info.conditions, condition.WellFormed DataType.castable := by
    intro condition member
    obtain rfl : condition = ofAge := List.mem_singleton.1 member
    refine .call (show Expr.callFault? .gt _ = none from rfl) fun operand inside => ?_
    rcases List.mem_pair.1 inside with rfl | rfl
    · exact .ref _ _
    · exact .lit _ _
  exact ⟨formed, residual_fits_row formed⟩

end JoinPlan

end LookupJoin
