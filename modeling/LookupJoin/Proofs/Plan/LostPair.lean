import Mathlib.Data.List.Nodup
import LookupJoin.Proofs.LookupKey.Latest
import LookupJoin.Proofs.Plan.Accepted
import LookupJoin.Proofs.Residual
/-!
What becomes of the pairs of a join. A pair is settled when the last pair on its raw column compares the same
driving field, for then the key of that column stands for it. The residual takes up a pair only when no key
reads its driving field. In between a pair is lost: its driving field feeds the key of some column, but not
that of its own. Main statement: a plan keeps exactly the pairs that are not lost, apart from equalities that
stand among the other conditions as well.
-/
namespace LookupJoin

namespace JoinPair

/-- The last pair on the column of this one compares the same driving field. -/
def Settled (program : Option Calc) (pairs : List JoinPair) (pair : JoinPair) : Prop :=
  ∃ column last, pair.column? program = some column ∧
    LookupKeys.lastPair? program pairs column = some last ∧ last.source = pair.source

/-- A pair with the same driving field is settled, but this one is not. -/
def Lost (program : Option Calc) (pairs : List JoinPair) (pair : JoinPair) : Prop :=
  ¬pair.Settled program pairs ∧ ∃ other ∈ pairs, other.source = pair.source ∧ other.Settled program pairs

variable {program : Option Calc} {pairs : List JoinPair} {pair : JoinPair}

theorem settled_iff_key :
    pair.Settled program pairs ↔
      ∃ column, pair.column? program = some column ∧
        (LookupKeys.analyze pairs program).get? column = some (.field pair.source) := by
  simp only [Settled, LookupKeys.get?_analyze_eq_field_iff]
  constructor
  · rintro ⟨column, last, landed, found, same⟩
    exact ⟨column, landed, last, found, same⟩
  · rintro ⟨column, landed, last, found, same⟩
    exact ⟨column, last, landed, found, same⟩

theorem settled_of_lastPair? {column : Nat} {last : JoinPair}
    (landing : LookupKeys.lastPair? program pairs column = some last) : last.Settled program pairs :=
  ⟨column, last, (LookupKeys.lastPair?_eq_some landing).2, landing, rfl⟩

theorem reads_iff_settled {source : Nat} :
    (LookupKeys.analyze pairs program).reads source = true ↔
      ∃ other ∈ pairs, other.source = source ∧ other.Settled program pairs := by
  rw [LookupKeys.reads_iff]
  constructor
  · rintro ⟨column, key⟩
    obtain ⟨last, landing, same⟩ := LookupKeys.get?_analyze_eq_field_iff.1 key
    exact ⟨last, (LookupKeys.lastPair?_eq_some landing).1, same, settled_of_lastPair? landing⟩
  · rintro ⟨other, _, same, settled⟩
    obtain ⟨column, _, key⟩ := settled_iff_key.1 settled
    exact ⟨column, same ▸ key⟩

theorem not_lost_iff :
    ¬pair.Lost program pairs ↔
      pair.Settled program pairs ∨ (LookupKeys.analyze pairs program).reads pair.source = false := by
  rw [Lost, ← reads_iff_settled, not_and_or, not_not, Bool.not_eq_true]

/-- With one pair for each driving field none is lost. -/
theorem not_lost_of_nodup (distinct : (pairs.map source).Nodup) (member : pair ∈ pairs) :
    ¬pair.Lost program pairs := by
  rintro ⟨unsettled, other, otherMember, same, settled⟩
  have identical : other = pair := List.inj_on_of_nodup_map distinct otherMember member same
  exact unsettled (identical ▸ settled)

end JoinPair

theorem JoinInfo.equalityOf_injective (drivingLen : Nat) (joined : Schema) :
    Function.Injective (equalityOf drivingLen joined) := by
  intro first second same
  simp only [equalityOf, Expr.call.injEq, List.cons.injEq, Expr.ref.injEq] at same
  obtain ⟨_, ⟨⟨source, _⟩, ⟨target, _⟩, _⟩, _⟩ := same
  obtain ⟨_, _⟩ := first
  simp_all

namespace JoinPlan

def conjuncts (plan : JoinPlan) : List Expr := (plan.residual.map Expr.conjuncts).getD []

def unread (plan : JoinPlan) : List JoinPair := plan.input.info.unread plan.keys

def equalityOf (plan : JoinPlan) (pair : JoinPair) : Expr :=
  JoinInfo.equalityOf plan.input.driving.length plan.row pair

variable {plan : JoinPlan} {pair : JoinPair}

theorem conjuncts_eq (plan : JoinPlan) :
    plan.conjuncts =
      plan.unread.map plan.equalityOf ++ plan.input.info.conditions.flatMap Expr.conjuncts :=
  JoinInfo.conjuncts_residual plan.residual_built

theorem mem_unread_iff :
    pair ∈ plan.unread ↔ pair ∈ plan.input.info.pairs ∧ plan.keys.reads pair.source = false :=
  JoinInfo.mem_unread_iff

/-- The pair is the key of its raw column, or a conjunct of the residual. -/
def Keeps (plan : JoinPlan) (pair : JoinPair) : Prop :=
  (∃ column, pair.column? plan.input.program = some column ∧
    plan.keys.get? column = some (.field pair.source)) ∨ plan.equalityOf pair ∈ plan.conjuncts

theorem keeps_iff_not_lost (member : pair ∈ plan.input.info.pairs) :
    plan.Keeps pair ↔
      ¬pair.Lost plan.input.program plan.input.info.pairs ∨
        plan.equalityOf pair ∈ plan.input.info.conditions.flatMap Expr.conjuncts := by
  -- Equalities of different pairs differ, so the pair's own stands for it alone.
  have injective : Function.Injective plan.equalityOf := JoinInfo.equalityOf_injective _ _
  have equated : plan.equalityOf pair ∈ plan.unread.map plan.equalityOf ↔
      plan.keys.reads pair.source = false := by
    rw [List.mem_map_of_injective injective, mem_unread_iff]
    exact and_iff_right member
  rw [Keeps, conjuncts_eq, List.mem_append, equated, JoinPair.not_lost_iff,
    JoinPair.settled_iff_key, or_assoc]
  rfl

def capitals : Calc where
  input := [⟨"name", .utf8, true, []⟩, ⟨"nick", .utf8, true, []⟩]
  columns := [(.ref 0 .utf8, "name"), (.call (.function "UPPER") [.ref 1 .utf8] .utf8, "upper_nick")]
  filter := none
  sound := rfl

/-- One driving field compared with both outputs. Only the first leads back to a column. -/
def comparedTwice : JoinPlan where
  input := {
    driving := [⟨"b", .utf8, true, []⟩]
    table := ⟨"D", capitals.input, none, ⟨true, false⟩⟩
    program := some capitals
    joinType := .inner
    info := ⟨[⟨0, 0⟩, ⟨0, 1⟩], []⟩ }
  residual := none
  accepted := rfl

theorem keeps_comparedTwice :
    ⟨0, 0⟩ ∈ comparedTwice.input.info.pairs ∧
      (comparedTwice.Keeps ⟨0, 0⟩ ↔
        ¬JoinPair.Lost comparedTwice.input.program comparedTwice.input.info.pairs ⟨0, 0⟩ ∨
          comparedTwice.equalityOf ⟨0, 0⟩ ∈
            comparedTwice.input.info.conditions.flatMap Expr.conjuncts) := by
  have member : ⟨0, 0⟩ ∈ comparedTwice.input.info.pairs := by decide
  exact ⟨member, keeps_iff_not_lost member⟩

theorem not_keeps_comparedTwice :
    build comparedTwice.input = .ok comparedTwice ∧ ⟨0, 1⟩ ∈ comparedTwice.input.info.pairs ∧
      ¬comparedTwice.Keeps ⟨0, 1⟩ := by
  refine ⟨build_eq_ok.2 rfl, by decide, ?_⟩
  rintro (⟨column, landed, _⟩ | member)
  · cases landed
  · cases member

end JoinPlan

end LookupJoin
