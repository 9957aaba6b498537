import LookupJoin.Proofs.LookupKey.Latest
import LookupJoin.Proofs.Plan.Accepted
import LookupJoin.Proofs.Residual
/-!
Which joins can be planned. A valid join is admissible, and the pairs it has to check on the joined row compare
types that can be compared. The residual takes boolean conditions and null ones alike while it is put together,
and a single condition as it is; only afterwards is each condition asked to be boolean. Main statement: a join
is planned exactly when it is valid, so that each condition is judged by itself, whatever it is conjoined with.
-/
namespace LookupJoin

namespace JoinType

variable {joinType : JoinType} {driving lookup : Schema}

theorem typeAt_driving {index : Nat} (inside : index < driving.length) :
    (joinType.joinedRow driving lookup).typeAt index = driving.typeAt index := by
  rw [Schema.typeAt, joinedRow_driving inside, Schema.typeAt]

theorem typeAt_lookup (index : Nat) :
    (joinType.joinedRow driving lookup).typeAt (driving.length + index) = lookup.typeAt index := by
  rw [Schema.typeAt, joinedRow_lookup, Option.map_map, Schema.typeAt]
  rfl

end JoinType

namespace JoinInput

/-- What a join has to satisfy. Pairs whose driving field is a key somewhere need not be comparable. -/
structure Valid (input : JoinInput) : Prop extends input.Admissible where
  comparable : ∀ pair ∈ input.info.pairs, (∀ column, input.keys.get? column ≠ some (.field pair.source)) →
    (input.driving.typeAt pair.source).comparable (input.lookupSide.typeAt pair.target) = true

def withConditions (input : JoinInput) (conditions : List Expr) : JoinInput :=
  { input with info := { input.info with conditions } }

variable {input : JoinInput}

theorem exists_equality_eq_ok {pair : JoinPair} (admissible : input.Admissible)
    (member : pair ∈ input.info.pairs) :
    (∃ expr, JoinInfo.equality input.driving.length input.row pair = .ok expr) ↔
      input.driving.length + pair.target < UInt64.size ∧
        (input.driving.typeAt pair.source).comparable (input.lookupSide.typeAt pair.target) = true := by
  obtain ⟨source, target⟩ := admissible.pairs pair member
  have width := input.length_row
  have sourceInside : pair.source < input.row.length := by omega
  have targetInside : input.driving.length + pair.target < input.row.length := by omega
  have sourceType : input.row.typeAt pair.source = input.driving.typeAt pair.source :=
    JoinType.typeAt_driving source
  have targetType : input.row.typeAt (input.driving.length + pair.target) =
      input.lookupSide.typeAt pair.target := JoinType.typeAt_lookup _
  simp only [JoinInfo.equality_eq_ok, sourceType, targetType]
  constructor
  · intro equated
    obtain ⟨_, _, word, _, comparable, _⟩ := equated
    exact ⟨word, comparable⟩
  · intro equable
    obtain ⟨word, comparable⟩ := equable
    exact ⟨_, sourceInside, word, targetInside, comparable, rfl⟩

theorem Admissible.exists_residual_eq_ok (admissible : input.Admissible) :
    (∃ residual, input.info.residual input.keys input.driving.length input.row = .ok residual) ↔
      ∀ pair ∈ input.info.pairs, (∀ column, input.keys.get? column ≠ some (.field pair.source)) →
        input.driving.length + pair.target < UInt64.size ∧
          (input.driving.typeAt pair.source).comparable (input.lookupSide.typeAt pair.target) = true := by
  rw [JoinInfo.exists_residual_eq_ok fun condition member => (admissible.conditions condition member).2]
  simp only [JoinInfo.mem_unread_iff, LookupKeys.reads_eq_false_iff, and_imp]
  constructor
  · intro built pair member unread
    exact (exists_equality_eq_ok admissible member).1 (built pair member unread)
  · intro equable pair member unread
    exact (exists_equality_eq_ok admissible member).2 (equable pair member unread)

theorem valid_of_accept {residual : Option Expr} (accepted : input.accept = .ok residual) : input.Valid := by
  obtain ⟨admissible, built⟩ := accept_eq_ok.1 accepted
  have equable := admissible.exists_residual_eq_ok.1 ⟨residual, built⟩
  exact ⟨admissible, fun pair member unread => (equable pair member unread).2⟩

theorem exists_accept_eq_ok (addressable : input.Addressable) :
    (∃ residual, input.accept = .ok residual) ↔ input.Valid := by
  constructor
  · rintro ⟨residual, accepted⟩
    exact valid_of_accept accepted
  · intro valid
    obtain ⟨residual, built⟩ := valid.toAdmissible.exists_residual_eq_ok.2 fun pair member unread =>
      ⟨valid.target_is_word addressable member, valid.comparable pair member unread⟩
    exact ⟨residual, accept_eq_ok.2 ⟨valid.toAdmissible, built⟩⟩

theorem valid_withConditions {conditions : List Expr} :
    (input.withConditions conditions).Valid ↔
      (input.withConditions []).Valid ∧
        ∀ condition ∈ conditions, condition.validate input.row = .ok () ∧ condition.type = .boolean := by
  constructor
  · intro valid
    -- The keys, and with them the pairs to compare, do not depend on the conditions.
    have none : (input.withConditions []).Valid :=
      ⟨⟨valid.lookup, valid.program, valid.hint, valid.pairs, by simp [withConditions]⟩, valid.comparable⟩
    exact ⟨none, valid.conditions⟩
  · intro parts
    obtain ⟨none, conditions⟩ := parts
    exact ⟨⟨none.lookup, none.program, none.hint, none.pairs, conditions⟩, none.comparable⟩

end JoinInput

namespace JoinPlan

theorem exists_build_eq_ok {input : JoinInput} :
    (∃ plan, build input = .ok plan) ↔ ∃ residual, input.accept = .ok residual := by
  simp only [build_eq_ok]
  constructor
  · intro built
    obtain ⟨plan, rfl⟩ := built
    exact ⟨plan.residual, plan.accepted⟩
  · intro accepted
    obtain ⟨residual, accepted⟩ := accepted
    exact ⟨⟨input, residual, accepted⟩, rfl⟩

theorem build_iff_valid {input : JoinInput} (addressable : input.Addressable) :
    ((∃ plan, build input = .ok plan) ↔ input.Valid) ∧
      ∀ conditions, (∃ plan, build (input.withConditions conditions) = .ok plan) ↔
        (∃ plan, build (input.withConditions []) = .ok plan) ∧
          ∀ condition ∈ conditions, condition.validate input.row = .ok () ∧ condition.type = .boolean := by
  refine ⟨exists_build_eq_ok.trans (JoinInput.exists_accept_eq_ok addressable), fun conditions => ?_⟩
  have planned (others : List Expr) :
      (∃ plan, build (input.withConditions others) = .ok plan) ↔ (input.withConditions others).Valid :=
    exists_build_eq_ok.trans (JoinInput.exists_accept_eq_ok addressable)
  rw [planned, planned]
  exact JoinInput.valid_withConditions

/-- The second pair compares an output that forwards nothing, so it has to be checked on the joined row, where
it is conjoined with the condition. -/
def nicknames : JoinInput where
  driving := [⟨"a", .int32, false, []⟩, ⟨"b", .utf8, true, []⟩]
  table := ⟨"D", [⟨"id", .int64, false, []⟩, ⟨"nick", .utf8, true, []⟩], none, ⟨false, true⟩⟩
  program := some {
    input := [⟨"id", .int64, false, []⟩, ⟨"nick", .utf8, true, []⟩]
    columns := [(.ref 0 .int64, "id"), (.call (.function "UPPER") [.ref 1 .utf8] .utf8, "upper_nick")]
    filter := none
    sound := rfl }
  joinType := .leftOuter
  info := ⟨[⟨0, 0⟩, ⟨1, 1⟩], [.call .gt [.ref 2 .int64, .lit (.int true .w64 (some 18)) .int64] .boolean]⟩
  hint := some { table := some "D" }

theorem build_nicknames_iff_valid :
    nicknames.Addressable ∧ (∃ plan, build nicknames = .ok plan) ∧
      ((∃ plan, build nicknames = .ok plan) ↔ nicknames.Valid) ∧
        ∀ conditions, (∃ plan, build (nicknames.withConditions conditions) = .ok plan) ↔
          (∃ plan, build (nicknames.withConditions []) = .ok plan) ∧
            ∀ condition ∈ conditions,
              condition.validate nicknames.row = .ok () ∧ condition.type = .boolean := by
  have addressable : nicknames.Addressable := by decide
  have planned : ∃ plan, build nicknames = .ok plan := ⟨_, rfl⟩
  exact ⟨addressable, planned, build_iff_valid addressable⟩

end JoinPlan

end LookupJoin
