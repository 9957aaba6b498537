import LookupJoin.Execution
import LookupJoin.Proofs.Outcome
import LookupJoin.Proofs.Plan.Accepted
/-!
Outcomes that agree: the same fault on both sides, or values that are related. Main statements: chains whose
steps agree do so as a whole; two joins are planned alike when their acceptance agrees, and two plans are made
ready alike when their keys pass the same check and cover the primary key the same way.
-/
namespace LookupJoin

namespace Outcome

variable {α β γ δ ε : Type}

inductive Agree (related : α → β → Prop) : Except ε α → Except ε β → Prop
  | ok {value : α} {other : β} (values : related value other) : Agree related (.ok value) (.ok other)
  | error (fault : ε) : Agree related (.error fault) (.error fault)

theorem Agree.of_eq {outcome other : Except ε α} (same : outcome = other) : Agree Eq outcome other := by
  subst same
  cases outcome with
  | ok value => exact .ok rfl
  | error fault => exact .error fault

theorem Agree.bind {related : α → β → Prop} {related' : γ → δ → Prop} {first : Except ε α} {second : Except ε β}
    {next : α → Except ε γ} {next' : β → Except ε δ} (outcomes : Agree related first second)
    (rest : ∀ value other, related value other → Agree related' (next value) (next' other)) :
    Agree related' (first >>= next) (second >>= next') := by
  cases outcomes with
  | ok values => exact rest _ _ values
  | error fault => exact .error fault

theorem bind_congr_of_ok {outcome : Except ε α} {next next' : α → Except ε β}
    (rest : ∀ value, outcome = .ok value → next value = next' value) : outcome >>= next = outcome >>= next' := by
  cases outcome with
  | ok value => exact rest value rfl
  | error fault => rfl

end Outcome

namespace JoinPlan

open Outcome

theorem build_eq_error {input : JoinInput} {fault : Error} :
    build input = .error fault ↔ input.accept = .error fault := by
  unfold build
  split
  next residual accepted => simp [accepted]
  next fault' refused => simp [refused]

theorem agree_build {related : Option Expr → Option Expr → Prop} {alike : JoinPlan → JoinPlan → Prop}
    {input other : JoinInput} (accepts : Agree related input.accept other.accept)
    (plans : ∀ plan plan' : JoinPlan, plan.input = input → plan'.input = other →
      related plan.residual plan'.residual → alike plan plan') : Agree alike (build input) (build other) := by
  generalize accepted : input.accept = outcome at accepts
  generalize accepted' : other.accept = outcome' at accepts
  cases accepts with
  | @ok residual residual' values =>
    have built : build input = .ok ⟨input, residual, accepted⟩ := build_eq_ok.2 rfl
    have built' : build other = .ok ⟨other, residual', accepted'⟩ := build_eq_ok.2 rfl
    rw [built, built']
    exact .ok (plans _ _ rfl rfl values)
  | error fault =>
    rw [build_eq_error.2 accepted, build_eq_error.2 accepted']
    exact .error fault

theorem checkKeys_congr {plan other : JoinPlan} (keys : plan.keys = other.keys)
    (name : plan.table.name = other.table.name) (schema : plan.table.schema = other.table.schema)
    (driving : plan.input.driving = other.input.driving) : plan.checkKeys = other.checkKeys := by
  have each : plan.checkKey = other.checkKey := by
    funext entry
    rw [checkKey, checkKey, name, schema, driving]
  rw [checkKeys, checkKeys, keys, name, each]

theorem agree_execution {alike : Execution → Execution → Prop} {plan other : JoinPlan}
    (checks : plan.checkKeys = other.checkKeys) (covers : plan.coversPrimaryKey = other.coversPrimaryKey)
    (batch : alike (plan.executionWith plan.batchOptions none false false)
      (other.executionWith other.batchOptions none false false))
    (streaming : ∀ covered, alike
      (plan.executionWith plan.asyncOptions plan.retry? covered
        (PrimaryKey.upsertRequired plan.input.insertOnly covered))
      (other.executionWith other.asyncOptions other.retry? covered
        (PrimaryKey.upsertRequired other.input.insertOnly covered))) (mode : ExecutionMode) :
    Agree alike (plan.execution mode) (other.execution mode) := by
  refine Agree.bind (.of_eq checks) fun _ _ _ => ?_
  cases mode with
  | batch => exact .ok batch
  | streaming =>
    refine Agree.bind (.of_eq covers) fun covered covered' same => ?_
    subst same
    exact .ok (streaming covered)

end JoinPlan

end LookupJoin
