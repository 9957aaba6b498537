import LookupJoin.Proofs.Execution
import LookupJoin.Proofs.Plan.Accepted
/-!
How plans look up. A table is looked up in a style it offers, asynchronously when it offers nothing else or when
that is asked for. Each option is that of the hint or, where the hint leaves it open, that of the settings; in batch
mode there is no hint. Main statement: the options of a plan, and those it is made ready with in either mode, suit
its table in this way, and keep the order of an input with updates.
-/
namespace LookupJoin

/-- An option is taken from the hint where the hint has it, and from the settings otherwise. -/
inductive Chosen {α : Type} (hinted : Option α) (setting : α) : α → Prop
  | hinted {value : α} (given : hinted = some value) : Chosen hinted setting value
  | setting (unset : hinted = none) : Chosen hinted setting setting

namespace AsyncOptions

theorem chosen_hinted {α : Type} (hint : Option JoinHint) (option : JoinHint → Option α) (setting : α) :
    Chosen (hint.bind option) setting (hinted hint option setting) := by
  unfold hinted
  cases found : hint.bind option with
  | none => exact .setting rfl
  | some value => exact .hinted rfl

/-- Options that a table can be looked up with, as hint and settings want them as far as it goes. -/
structure Suits (options : AsyncOptions) (capability : Capability) (hint : Option JoinHint)
    (settings : LookupSettings) (insertOnly : Bool) : Prop where
  async : options.enabled = true → capability.async = true
  sync : options.enabled = false → capability.sync = true
  enabled : ∃ requested, Chosen (hint.bind JoinHint.async) settings.preferAsync requested ∧
    (options.enabled = true ↔ capability.async = true ∧ (capability.sync = false ∨ requested = true))
  capacity : Chosen (hint.bind JoinHint.capacity) settings.bufferCapacity options.capacity
  timeout : Chosen (hint.bind JoinHint.timeoutMs) settings.timeoutMs options.timeoutMs
  updates : insertOnly = false → options.ordering = .ordered
  ordering : insertOnly = true → Chosen (hint.bind JoinHint.outputMode) settings.outputMode options.ordering

theorem asynchronous_eq_true_iff {capability : Capability} {requested : Bool} :
    asynchronous capability requested = true ↔
      capability.async = true ∧ (capability.sync = false ∨ requested = true) := by
  simp [asynchronous]

theorem sync_of_not_asynchronous {capability : Capability} {requested : Bool} (lookup : capability.lookup = true)
    (synchronous : asynchronous capability requested = false) : capability.sync = true := by
  have offered : capability.sync = true ∨ capability.async = true := by simpa [Capability.lookup] using lookup
  rcases offered with sync | async
  · exact sync
  · by_contra none
    have alone : capability.sync = false := Bool.eq_false_iff.2 none
    have used : asynchronous capability requested = true := asynchronous_eq_true_iff.2 ⟨async, .inl alone⟩
    rw [used] at synchronous
    cases synchronous

theorem resolve_suits {capability : Capability} (lookup : capability.lookup = true) (hint : Option JoinHint)
    (settings : LookupSettings) (insertOnly : Bool) :
    (resolve hint settings capability insertOnly).Suits capability hint settings insertOnly where
  async enabled := (asynchronous_eq_true_iff.1 enabled).1
  sync := sync_of_not_asynchronous lookup
  enabled := ⟨_, chosen_hinted hint JoinHint.async settings.preferAsync, asynchronous_eq_true_iff⟩
  capacity := chosen_hinted hint JoinHint.capacity settings.bufferCapacity
  timeout := chosen_hinted hint JoinHint.timeoutMs settings.timeoutMs
  updates updating := by rw [resolve, updating]; rfl
  ordering inserting := by
    rw [resolve, inserting]
    exact chosen_hinted hint JoinHint.outputMode settings.outputMode

end AsyncOptions

namespace JoinPlan

def hintIn (plan : JoinPlan) : ExecutionMode → Option JoinHint
  | .batch => none
  | .streaming => plan.input.hint

/-- Whether the driving input is taken to insert rows only. A batch is. -/
def insertOnlyIn (plan : JoinPlan) : ExecutionMode → Bool
  | .batch => true
  | .streaming => plan.input.insertOnly

variable {plan : JoinPlan} {mode : ExecutionMode} {made : Execution}

theorem async_of_execution (executed : plan.execution mode = .ok made) :
    made.async =
      .resolve (plan.hintIn mode) plan.input.settings.asyncLookup plan.table.capability (plan.insertOnlyIn mode) := by
  have finished : plan.finish mode = .ok made := (execution_eq_ok.1 executed).2
  cases mode with
  | batch =>
    cases finished
    rfl
  | streaming =>
    obtain ⟨covered, _, rfl⟩ := Outcome.map_eq_ok.1 finished
    rfl

theorem options_suit (plan : JoinPlan) :
    plan.asyncOptions.Suits plan.table.capability plan.input.hint plan.input.settings.asyncLookup
        plan.input.insertOnly ∧
      ∀ mode made, plan.execution mode = .ok made →
        made.async.Suits plan.table.capability (plan.hintIn mode) plan.input.settings.asyncLookup
          (plan.insertOnlyIn mode) := by
  have lookup : plan.table.capability.lookup = true := plan.admissible.lookup
  refine ⟨AsyncOptions.resolve_suits lookup _ _ _, fun mode made executed => ?_⟩
  rw [async_of_execution executed]
  exact AsyncOptions.resolve_suits lookup _ _ _

def eager : JoinPlan where
  input := {
    driving := [⟨"visitor", .int32, false, []⟩]
    table := ⟨"D", [⟨"id", .int64, false, []⟩], some ["id"], ⟨true, true⟩⟩
    joinType := .inner
    info := ⟨[⟨0, 0⟩], []⟩
    hint := some { async := some true, outputMode := some .allowUnordered, capacity := some 7 }
    settings := ⟨{ (default : LookupSettings) with timeoutMs := 500, outputMode := .allowUnordered }⟩
    insertOnly := false }
  residual := none
  accepted := rfl

example : eager.asyncOptions = ⟨true, 7, 500, .ordered⟩ ∧ eager.batchOptions = ⟨false, 100, 500, .allowUnordered⟩ := by
  decide

theorem options_suit_eager :
    (∀ mode, ∃ made, eager.execution mode = .ok made) ∧
      eager.asyncOptions.Suits eager.table.capability eager.input.hint eager.input.settings.asyncLookup
          eager.input.insertOnly ∧
        ∀ mode made, eager.execution mode = .ok made →
          made.async.Suits eager.table.capability (eager.hintIn mode) eager.input.settings.asyncLookup
            (eager.insertOnlyIn mode) := by
  have checked : eager.checkKeys = .ok () := rfl
  refine ⟨fun mode => ?_, options_suit eager⟩
  cases mode with
  | batch => exact ⟨_, execution_eq_ok.2 ⟨checked, rfl⟩⟩
  | streaming => exact ⟨_, execution_eq_ok.2 ⟨checked, rfl⟩⟩

end JoinPlan

end LookupJoin
