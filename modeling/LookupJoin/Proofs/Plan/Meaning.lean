import LookupJoin.Proofs.Expr.Mark
import LookupJoin.Proofs.Plan.KeyFit
import LookupJoin.Proofs.Plan.LostPair
/-!
What a planned join finds, against what the join asks for. A driving row and a raw table row belong together
when the filter, all pairs and all conditions hold of them; the plan finds them together when the filter, all
lookup keys and the residual hold. Main statements: whatever belongs together is found, and what is found
belongs together exactly when the lost pairs hold of it.
-/
namespace LookupJoin

universe u

namespace JoinPlan

section

variable {Value : Type u} (plan : JoinPlan) (reading : Reading Value) (driving raw : List Value)

def joined : List Value := driving ++ reading.calculated plan.input.program raw

def PairHolds (pair : JoinPair) : Prop :=
  reading.SameAt driving pair.source (reading.calculated plan.input.program raw) pair.target

def FilterHolds : Prop := ∀ predicate ∈ plan.input.program.bind Calc.filter, reading.Holds raw predicate

/-- The key fixes the column of the raw row. -/
def KeyHolds (column : Nat) : LookupKey → Prop
  | .constant _ value => ∃ held ∈ raw[column]?, reading.same held (reading.constant value)
  | .field source => reading.SameAt raw column driving source

/-- The rows belong together. -/
structure Joins : Prop where
  filter : plan.FilterHolds reading raw
  pairs : ∀ pair ∈ plan.input.info.pairs, plan.PairHolds reading driving raw pair
  conditions : ∀ condition ∈ plan.input.info.conditions,
    reading.Holds (plan.joined reading driving raw) condition

/-- The rows are found together. -/
structure Finds : Prop where
  filter : plan.FilterHolds reading raw
  keys : ∀ column key, plan.keys.get? column = some key → KeyHolds reading driving raw column key
  residual : ∀ predicate ∈ plan.residual, reading.Holds (plan.joined reading driving raw) predicate

/-- Each row is as wide as its schema. -/
structure Fits : Prop where
  driving : driving.length = plan.input.driving.length
  raw : raw.length = plan.table.schema.length

end

section

variable {Value : Type u} {plan : JoinPlan} {reading : Reading Value} {driving raw : List Value}

theorem residual_holds_iff :
    (∀ predicate ∈ plan.residual, reading.Holds (plan.joined reading driving raw) predicate) ↔
      ∀ conjunct ∈ plan.conjuncts, reading.Holds (plan.joined reading driving raw) conjunct := by
  unfold conjuncts
  cases plan.residual with
  | none => simp
  | some predicate => simpa using reading.holds_iff_conjuncts _ predicate

theorem length_calculated (fits : plan.Fits driving raw) :
    (reading.calculated plan.input.program raw).length = plan.input.lookupSide.length := by
  unfold Reading.calculated JoinInput.lookupSide
  cases plan.input.program with
  | none => exact fits.raw
  | some program => simp

theorem equality_holds_iff (fits : plan.Fits driving raw) {pair : JoinPair}
    (member : pair ∈ plan.input.info.pairs) :
    reading.Holds (plan.joined reading driving raw) (plan.equalityOf pair) ↔
      plan.PairHolds reading driving raw pair := by
  obtain ⟨source, target⟩ := plan.admissible.pairs pair member
  rw [← fits.driving] at source
  rw [← length_calculated fits] at target
  have sourceAt : (plan.joined reading driving raw)[pair.source]? = some driving[pair.source] := by
    rw [joined, List.getElem?_append_left source, List.getElem?_eq_getElem source]
  have targetAt : (plan.joined reading driving raw)[plan.input.driving.length + pair.target]? =
      some (reading.calculated plan.input.program raw)[pair.target] := by
    rw [joined, ← fits.driving, List.getElem?_append_right (Nat.le_add_right _ _), Nat.add_sub_cancel_left,
      List.getElem?_eq_getElem target]
  rw [Reading.Holds, equalityOf, JoinInfo.equalityOf, reading.truth_eq, reading.value_ref _ sourceAt,
    reading.value_ref _ targetAt]
  simp [PairHolds, Reading.SameAt, source, target]

theorem pairHolds_iff_column (fits : plan.Fits driving raw) {pair : JoinPair} {column : Nat}
    (member : pair ∈ plan.input.info.pairs) (landed : pair.column? plan.input.program = some column) :
    plan.PairHolds reading driving raw pair ↔ reading.SameAt raw column driving pair.source := by
  have inside : column < raw.length := fits.raw ▸ column_lt_length member landed
  rw [Reading.sameAt_comm, PairHolds]
  cases present : plan.input.program with
  | none =>
    rw [present] at landed
    cases landed
    rfl
  | some program =>
    rw [present] at landed
    obtain ⟨expr, found, forwards⟩ := Option.bind_eq_some_iff.1 landed
    have output : (reading.calculated (some program) raw)[pair.target]? = some (reading.value raw expr) := by
      have found' : program.projections[pair.target]? = some expr := found
      rw [Reading.calculated, List.getElem?_map, found']
      rfl
    -- The output need not be the value of the column, but sameness does not tell the two apart.
    have notice (other : Value) :
        reading.same other (reading.value raw expr) ↔ reading.same other raw[column] := by
      rw [Reading.same_iff_comm, Reading.same_source? forwards (List.getElem?_eq_getElem inside),
        Reading.same_iff_comm]
    simp [Reading.SameAt, output, inside, notice]

theorem keyHolds_of_filter (filter : plan.FilterHolds reading raw) (fits : plan.Fits driving raw)
    {column : Nat} {key : LookupKey}
    (found : (LookupKeys.ofFilter (plan.input.program.bind Calc.filter)).get? column = some key) :
    KeyHolds reading driving raw column key := by
  obtain ⟨predicate, filtered, conjunct, member, entry⟩ := LookupKeys.conjunct_of_get?_ofFilter found
  obtain ⟨value, type, literalType, result, rfl, shape⟩ := LookupKeys.constantEntry?_eq_some entry
  have holds : reading.Holds raw conjunct :=
    (reading.holds_iff_conjuncts raw predicate).1 (filter predicate filtered) conjunct member
  have inside : column < raw.length := by
    obtain ⟨field, _, present, _⟩ := literal_of_filter found
    rw [fits.raw]
    exact (List.getElem?_eq_some_iff.1 present).1
  have held := List.getElem?_eq_getElem inside
  refine ⟨raw[column], held, ?_⟩
  rcases shape with rfl | rfl
  · rw [Reading.Holds, reading.truth_eq, reading.value_lit, reading.value_ref type held] at holds
    exact reading.same_comm holds
  · rwa [Reading.Holds, reading.truth_eq, reading.value_lit, reading.value_ref type held] at holds

theorem finds_of_joins (fits : plan.Fits driving raw)
    (joins : plan.Joins reading driving raw) : plan.Finds reading driving raw := by
  refine ⟨joins.filter, fun column key found => ?_, residual_holds_iff.2 fun conjunct member => ?_⟩
  · rcases LookupKeys.get?_analyze_eq_some found with ⟨last, landing, rfl⟩ | fixed
    · obtain ⟨member, landed⟩ := LookupKeys.lastPair?_eq_some landing
      exact (pairHolds_iff_column fits member landed).1 (joins.pairs last member)
    · exact keyHolds_of_filter joins.filter fits fixed
  · rw [conjuncts_eq, List.mem_append] at member
    rcases member with equality | condition
    · obtain ⟨pair, unread, rfl⟩ := List.mem_map.1 equality
      have member := (mem_unread_iff.1 unread).1
      exact (equality_holds_iff fits member).2 (joins.pairs pair member)
    · obtain ⟨condition, member, inside⟩ := List.mem_flatMap.1 condition
      exact (reading.holds_iff_conjuncts _ condition).1 (joins.conditions condition member) conjunct inside

theorem pairHolds_of_finds (fits : plan.Fits driving raw)
    (finds : plan.Finds reading driving raw) {pair : JoinPair} (member : pair ∈ plan.input.info.pairs)
    (kept : ¬pair.Lost plan.input.program plan.input.info.pairs) :
    plan.PairHolds reading driving raw pair := by
  rcases JoinPair.not_lost_iff.1 kept with settled | unread
  · obtain ⟨column, landed, key⟩ := JoinPair.settled_iff_key.1 settled
    exact (pairHolds_iff_column fits member landed).2 (finds.keys column _ key)
  · refine (equality_holds_iff fits member).1 (residual_holds_iff.1 finds.residual _ ?_)
    rw [conjuncts_eq]
    exact List.mem_append_left _ (List.mem_map_of_mem (mem_unread_iff.2 ⟨member, unread⟩))

theorem condition_holds_of_finds (finds : plan.Finds reading driving raw) {condition : Expr}
    (member : condition ∈ plan.input.info.conditions) :
    reading.Holds (plan.joined reading driving raw) condition := by
  refine (reading.holds_iff_conjuncts _ condition).2 fun conjunct inside => ?_
  refine residual_holds_iff.1 finds.residual conjunct ?_
  rw [conjuncts_eq]
  exact List.mem_append_right _ (List.mem_flatMap.2 ⟨condition, member, inside⟩)

/-- A join asks for what its plan finds, as far as the lost pairs agree. -/
theorem joins_iff_finds_and_lost (fits : plan.Fits driving raw) :
    plan.Joins reading driving raw ↔
      plan.Finds reading driving raw ∧
        ∀ pair ∈ plan.input.info.pairs, pair.Lost plan.input.program plan.input.info.pairs →
          plan.PairHolds reading driving raw pair := by
  constructor
  · intro joins
    exact ⟨finds_of_joins fits joins, fun pair member _ => joins.pairs pair member⟩
  · rintro ⟨finds, lost⟩
    refine ⟨finds.filter, fun pair member => ?_, fun condition member =>
      condition_holds_of_finds finds member⟩
    by_cases dropped : pair.Lost plan.input.program plan.input.info.pairs
    · exact lost pair member dropped
    · exact pairHolds_of_finds fits finds member dropped

end

/-- The key of the first column is the second driving field, and the first driving field feeds the other. -/
def crossed : JoinPlan where
  input := {
    driving := [⟨"a", .int32, false, []⟩, ⟨"b", .int32, false, []⟩]
    table := ⟨"D", [⟨"id", .int32, false, []⟩, ⟨"age", .int32, true, []⟩], none, ⟨true, false⟩⟩
    joinType := .inner
    info := ⟨[⟨0, 0⟩, ⟨1, 0⟩, ⟨0, 1⟩], []⟩ }
  residual := none
  accepted := rfl

theorem joins_crossed :
    crossed.Fits [Mark.sought, .blank] [.yes, .blank] ∧
      (crossed.Joins Mark.reading [.sought, .blank] [.yes, .blank] ↔
        crossed.Finds Mark.reading [.sought, .blank] [.yes, .blank] ∧
          ∀ pair ∈ crossed.input.info.pairs,
            pair.Lost crossed.input.program crossed.input.info.pairs →
              crossed.PairHolds Mark.reading [.sought, .blank] [.yes, .blank] pair) := by
  have fits : crossed.Fits [Mark.sought, .blank] [.yes, .blank] := ⟨rfl, rfl⟩
  exact ⟨fits, joins_iff_finds_and_lost fits⟩

theorem finds_crossed_not_joins :
    build crossed.input = .ok crossed ∧ crossed.Fits [Mark.sought, .blank] [.yes, .blank] ∧
      crossed.Finds Mark.reading [.sought, .blank] [.yes, .blank] ∧
        ¬crossed.Joins Mark.reading [.sought, .blank] [.yes, .blank] := by
  refine ⟨build_eq_ok.2 rfl, ⟨rfl, rfl⟩, ⟨?_, ?_, ?_⟩, ?_⟩
  · rintro predicate ⟨⟩
  · intro column key found
    have entries : crossed.keys.entries = [(0, .field 1), (1, .field 0)] := rfl
    have member := LookupKeys.get?_eq_some_iff.1 found
    rw [entries] at member
    rcases List.mem_pair.1 member with same | same
    · cases same
      exact ⟨.yes, rfl, .blank, rfl, rfl⟩
    · cases same
      exact ⟨.blank, rfl, .sought, rfl, rfl⟩
  · rintro predicate ⟨⟩
  · intro joins
    obtain ⟨held, left, held', right, same⟩ := joins.pairs ⟨0, 0⟩ (by decide)
    cases left
    cases right
    cases same

end JoinPlan

end LookupJoin
