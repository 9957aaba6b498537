import LookupJoin.Proofs.Execution
import LookupJoin.Proofs.Plan.Accepted
/-!
Joins in batch mode. Without its hint, its updates and the primary key of its table a join is still accepted,
and leaves the same condition over; in batch mode the plan is then made ready as the full one is. Main
statement: two plans that differ in nothing else are made ready in batch mode alike, with the same fault or
the same result.
-/
namespace LookupJoin

/-- What batch mode sees of a join: neither a hint, nor updates of the input, nor a primary key. -/
def JoinInput.inBatch (input : JoinInput) : JoinInput :=
  { input with table := { input.table with primaryKey := none }, hint := none, insertOnly := true }

namespace JoinPlan

variable {plan other : JoinPlan}

theorem accept_inBatch (plan : JoinPlan) : plan.input.inBatch.accept = .ok plan.residual := by
  have admissible : plan.input.inBatch.Admissible := { plan.admissible with hint := by simp [JoinInput.inBatch] }
  exact JoinInput.accept_eq_ok.2 ⟨admissible, plan.residual_built⟩

def inBatch (plan : JoinPlan) : JoinPlan := ⟨plan.input.inBatch, plan.residual, plan.accept_inBatch⟩

theorem execution_inBatch (plan : JoinPlan) : plan.inBatch.execution .batch = plan.execution .batch := rfl

theorem inBatch_congr (same : plan.input.inBatch = other.input.inBatch) : plan.inBatch = other.inBatch := by
  have built : build plan.input.inBatch = .ok plan.inBatch := build_eq_ok.2 rfl
  have built' : build plan.input.inBatch = .ok other.inBatch := build_eq_ok.2 same.symm
  exact Except.ok.inj (built.symm.trans built')

theorem execution_batch_eq_ok {made : Execution} :
    plan.execution .batch = .ok made ↔
      plan.checkKeys = .ok () ∧ plan.executionWith plan.batchOptions none false false = made := by
  rw [execution_eq_ok, finish, Except.ok.injEq]

theorem execution_batch_congr (same : plan.input.inBatch = other.input.inBatch) :
    plan.execution .batch = other.execution .batch ∧
      ∀ made, plan.execution .batch = .ok made →
        made.retry = none ∧ made.coversPrimaryKey = false ∧ made.upsert = false := by
  refine ⟨?_, fun made executed => ?_⟩
  · rw [← execution_inBatch plan, ← execution_inBatch other, inBatch_congr same]
  · obtain ⟨_, rfl⟩ := execution_batch_eq_ok.1 executed
    exact ⟨rfl, rfl, rfl⟩

def visits : JoinPlan where
  input := {
    driving := [⟨"visitor", .int32, false, []⟩]
    table := ⟨"D", [⟨"id", .int32, false, []⟩, ⟨"age", .int32, true, []⟩], some ["id"], ⟨true, true⟩⟩
    joinType := .leftOuter
    info := ⟨[⟨0, 0⟩], []⟩ }
  residual := none
  accepted := rfl

def updatedVisits : JoinPlan where
  input := { visits.input with
    table := { visits.input.table with primaryKey := some ["key"] }
    hint := some { async := some true, capacity := some 5, retry := some ⟨10, 3⟩ }
    insertOnly := false }
  residual := none
  accepted := rfl

theorem execution_batch_updatedVisits :
    visits.input.inBatch = updatedVisits.input.inBatch ∧
      updatedVisits.coversPrimaryKey = .error (.unknownColumn "D" "key") ∧
        (∃ made, updatedVisits.execution .batch = .ok made) ∧
          visits.execution .batch = updatedVisits.execution .batch ∧
            ∀ made, visits.execution .batch = .ok made →
              made.retry = none ∧ made.coversPrimaryKey = false ∧ made.upsert = false := by
  have covers : updatedVisits.coversPrimaryKey = .error (.unknownColumn "D" "key") := rfl
  have checked : updatedVisits.checkKeys = .ok () := rfl
  exact ⟨rfl, covers, ⟨_, execution_batch_eq_ok.2 ⟨checked, rfl⟩⟩, execution_batch_congr rfl⟩

end JoinPlan

end LookupJoin
