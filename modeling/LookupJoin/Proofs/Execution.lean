import LookupJoin.Execution
import LookupJoin.Proofs.Outcome
/-!
How a plan is made ready. Its keys are checked first, and only what comes after that depends on the mode. Main
statements: a key read from the driving row passes exactly when both its fields are there and of compatible types;
and a plan is made ready exactly when its keys pass and the rest can be made.
-/
namespace LookupJoin.JoinPlan

variable {plan : JoinPlan} {mode : ExecutionMode} {made : Execution}

theorem checkKey_field_eq_ok {column source : Nat} :
    plan.checkKey (column, .field source) = .ok () ↔
      ∃ target field, plan.table.schema[column]? = some target ∧ plan.input.driving[source]? = some field ∧
        compatible field.type target.type = true := by
  cases target : plan.table.schema[column]? with
  | none => simp [checkKey, target]
  | some target' =>
    cases field : plan.input.driving[source]? with
    | none => simp [checkKey, target, field]
    | some field' => simp [checkKey, target, field]

theorem checkKeys_eq_ok :
    plan.checkKeys = .ok () ↔
      plan.keys.entries ≠ [] ∧ ∀ entry ∈ plan.keys.entries, plan.checkKey entry = .ok () := by
  rw [checkKeys, ← Outcome.forM_eq_ok]
  by_cases none : plan.keys.entries = []
  · simp [none]
  · simp [none]

def finish (plan : JoinPlan) : ExecutionMode → Except Error Execution
  | .batch => .ok (plan.executionWith plan.batchOptions none false false)
  | .streaming => plan.coversPrimaryKey.map fun covered =>
      plan.executionWith plan.asyncOptions plan.retry? covered (PrimaryKey.upsertRequired plan.input.insertOnly covered)

theorem execution_eq (plan : JoinPlan) (mode : ExecutionMode) :
    plan.execution mode = plan.checkKeys >>= fun _ => plan.finish mode := by
  cases mode with
  | batch => rfl
  | streaming =>
    rw [execution, finish]
    cases plan.coversPrimaryKey <;> rfl

theorem execution_eq_ok :
    plan.execution mode = .ok made ↔ plan.checkKeys = .ok () ∧ plan.finish mode = .ok made := by
  rw [execution_eq, Outcome.bind_unit_eq_ok]

end LookupJoin.JoinPlan
