import LookupJoin.Plan
import LookupJoin.Proofs.Expr.Reference
/-!
What acceptance of a join says. An input is accepted exactly when it is admissible and its residual can be
built; the plan then carries that residual. Lookup-side fields are read in the joined row at the width of
the driving row and beyond, a position that has to be a machine word.
-/
namespace LookupJoin

namespace JoinInput

/-- Each position of the joined row is a machine word. Rows are held in memory, so theirs are. -/
def Addressable (input : JoinInput) : Prop := input.row.length ≤ UInt64.size

instance (input : JoinInput) : Decidable input.Addressable := inferInstanceAs (Decidable (_ ≤ _))

structure Admissible (input : JoinInput) : Prop where
  lookup : input.table.capability.lookup = true
  program : ∀ program ∈ input.program, program.input = input.table.schema
  hint : ∀ hinted ∈ input.hint.bind JoinHint.table, hinted = input.table.name
  pairs : ∀ pair ∈ input.info.pairs,
    pair.source < input.driving.length ∧ pair.target < input.lookupSide.length
  conditions : ∀ condition ∈ input.info.conditions,
    condition.validate input.row = .ok () ∧ condition.type = .boolean

theorem checkCapability_eq_ok {input : JoinInput} :
    input.checkCapability = .ok () ↔ input.table.capability.lookup = true := by
  unfold checkCapability
  split <;> simp_all

theorem checkProgram_eq_ok {input : JoinInput} :
    input.checkProgram = .ok () ↔ ∀ program ∈ input.program, program.input = input.table.schema := by
  unfold checkProgram
  split
  next absent => simp [absent]
  next program present =>
    by_cases same : program.input = input.table.schema
    · simp [present, same]
    · by_cases count : input.table.schema.length = program.input.length <;> simp [present, same, count]

theorem checkHint_eq_ok {input : JoinInput} :
    input.checkHint = .ok () ↔ ∀ hinted ∈ input.hint.bind JoinHint.table, hinted = input.table.name := by
  unfold checkHint
  split
  next hinted named => by_cases same : hinted = input.table.name <;> simp [named, same]
  next unnamed => simp [unnamed]

theorem checkPair_eq_ok {input : JoinInput} {pair : JoinPair} :
    input.checkPair pair = .ok () ↔
      pair.source < input.driving.length ∧ pair.target < input.lookupSide.length := by
  unfold checkPair
  split
  next beyond => simp only [reduceCtorEq, false_iff]; omega
  next inside =>
    split
    next beyond => simp only [reduceCtorEq, false_iff]; omega
    next inside' => simp only [true_iff]; omega

theorem length_row (input : JoinInput) : input.row.length = input.driving.length + input.lookupSide.length :=
  JoinType.length_joinedRow _ _ _

theorem Admissible.target_is_word {input : JoinInput} {pair : JoinPair} (admissible : input.Admissible)
    (addressable : input.Addressable) (member : pair ∈ input.info.pairs) :
    input.driving.length + pair.target < UInt64.size := by
  have inside := (admissible.pairs pair member).2
  have width := input.length_row
  have bound : input.row.length ≤ UInt64.size := addressable
  omega

theorem accept_eq_ok {input : JoinInput} {residual : Option Expr} :
    input.accept = .ok residual ↔
      input.Admissible ∧
        input.info.residual input.keys input.driving.length input.row = .ok residual := by
  simp only [accept, Outcome.bind_unit_eq_ok, checkCapability_eq_ok, checkProgram_eq_ok, checkHint_eq_ok,
    Outcome.forM_eq_ok, checkPair_eq_ok]
  rw [Outcome.bind_eq_ok]
  simp only [Outcome.bind_unit_eq_ok, Outcome.forM_eq_ok, Expr.validatePredicate_eq_ok]
  constructor
  · rintro ⟨lookup, program, hint, pairs, _, built, conditions, same⟩
    cases same
    exact ⟨⟨lookup, program, hint, pairs, conditions⟩, built⟩
  · rintro ⟨⟨lookup, program, hint, pairs, conditions⟩, built⟩
    exact ⟨lookup, program, hint, pairs, residual, built, conditions, rfl⟩

end JoinInput

namespace JoinPlan

theorem admissible (plan : JoinPlan) : plan.input.Admissible := (JoinInput.accept_eq_ok.1 plan.accepted).1

theorem residual_built (plan : JoinPlan) :
    plan.input.info.residual plan.keys plan.input.driving.length plan.row = .ok plan.residual :=
  (JoinInput.accept_eq_ok.1 plan.accepted).2

theorem build_eq_ok {input : JoinInput} {plan : JoinPlan} : build input = .ok plan ↔ plan.input = input := by
  unfold build
  split
  next residual accepted =>
    constructor
    · intro built
      cases built
      rfl
    · rintro rfl
      have same : residual = plan.residual := Except.ok.inj (accepted.symm.trans plan.accepted)
      subst same
      rfl
  next fault refused =>
    constructor
    · intro built
      cases built
    · rintro rfl
      rw [plan.accepted] at refused
      cases refused

end JoinPlan

end LookupJoin
