import LookupJoin.Proofs.Agreement
import LookupJoin.Proofs.Plan.LostPair
import LookupJoin.Proofs.Plan.Validity
/-!
The order of the pairs of a join. Keys put on different columns can be put in any order, so pairs that land on
different columns feed the same keys however they are ordered; the equalities left over keep the order of their
pairs, and nothing else does. Main statement: with its pairs in another order such a join is planned when it was
before, with a residual of the same conjuncts in another order, and made ready for execution alike.
-/
namespace LookupJoin

namespace LookupKeys

theorem insert_comm (keys : LookupKeys) {first second : Nat × LookupKey} (apart : first.1 ≠ second.1) :
    (keys.insert first).insert second = (keys.insert second).insert first := by
  refine ext_get? fun column => ?_
  simp only [get?_insert]
  by_cases here : column = first.1
  · have elsewhere : column ≠ second.1 := here ▸ apart
    rw [if_neg elsewhere, if_pos here, if_pos here]
  · rw [if_neg here, if_neg here]

/-- Entries for different columns can be inserted in any order. -/
theorem insertAll_of_perm (keys : LookupKeys) {entries entries' : Entries} (order : entries.Perm entries')
    (distinct : (entries.map Prod.fst).Nodup) : keys.insertAll entries = keys.insertAll entries' := by
  refine order.foldl_eq' (fun first member second member' present => ?_) keys
  by_cases apart : first.1 = second.1
  · rw [List.inj_on_of_nodup_map distinct member member' apart]
  · exact insert_comm present apart

theorem fst_fieldEntries (program : Option Calc) (pairs : List JoinPair) :
    ((remap program pairs).map fieldEntry).map Prod.fst = pairs.filterMap (JoinPair.column? program) := by
  rw [List.map_map, remap, List.map_filterMap]
  refine List.filterMap_congr fun pair _ => ?_
  rw [JoinPair.remap?, Option.map_map]
  exact Option.map_id'

theorem analyze_of_perm {program : Option Calc} {pairs pairs' : List JoinPair} (order : pairs.Perm pairs')
    (distinct : (pairs.filterMap (JoinPair.column? program)).Nodup) :
    analyze pairs program = analyze pairs' program := by
  have entries : ((remap program pairs).map fieldEntry).Perm ((remap program pairs').map fieldEntry) :=
    (order.filterMap _).map _
  rw [← fst_fieldEntries] at distinct
  have same : ofPairs program pairs = ofPairs program pairs' := insertAll_of_perm empty entries distinct
  rw [analyze, analyze, same]

end LookupKeys

namespace JoinInfo

variable {info info' : JoinInfo} {keys : LookupKeys} {drivingLen : Nat} {joined : Schema}

theorem unread_perm (order : info.pairs.Perm info'.pairs) : (info.unread keys).Perm (info'.unread keys) :=
  order.filter _

theorem exists_residual_of_perm (order : info.pairs.Perm info'.pairs) (conditions : info.conditions = info'.conditions)
    (boolean : ∀ condition ∈ info.conditions, condition.type = .boolean) :
    (∃ left, info.residual keys drivingLen joined = .ok left) ↔
      ∃ left, info'.residual keys drivingLen joined = .ok left := by
  rw [exists_residual_eq_ok boolean, exists_residual_eq_ok (conditions ▸ boolean)]
  exact forall_congr' fun pair => imp_congr_left (unread_perm order).mem_iff

theorem conjuncts_residual_perm {left left' : Option Expr} (order : info.pairs.Perm info'.pairs)
    (conditions : info.conditions = info'.conditions) (built : info.residual keys drivingLen joined = .ok left)
    (built' : info'.residual keys drivingLen joined = .ok left') :
    ((left.map Expr.conjuncts).getD []).Perm ((left'.map Expr.conjuncts).getD []) := by
  obtain ⟨equalities, mapped, conjoined⟩ := Outcome.bind_eq_ok.1 built
  obtain ⟨equalities', mapped', conjoined'⟩ := Outcome.bind_eq_ok.1 built'
  obtain ⟨others, reordered, perm⟩ := Outcome.exists_mapM_of_perm (unread_perm order) mapped
  have same : others = equalities' := Except.ok.inj (reordered.symm.trans mapped')
  subst same
  rw [Expr.conjuncts_conjoin conjoined, Expr.conjuncts_conjoin conjoined', ← conditions]
  exact (perm.append_right info.conditions).flatMap_right Expr.conjuncts

end JoinInfo

namespace JoinInput

/-- The pairs that land on columns land on different ones. -/
def LandsApart (input : JoinInput) : Prop :=
  (input.info.pairs.filterMap (JoinPair.column? input.program)).Nodup

instance (input : JoinInput) : Decidable input.LandsApart := inferInstanceAs (Decidable (List.Nodup _))

def withPairs (input : JoinInput) (pairs : List JoinPair) : JoinInput :=
  { input with info := { input.info with pairs } }

variable {input : JoinInput} {pairs : List JoinPair}

theorem keys_withPairs (apart : input.LandsApart) (order : input.info.pairs.Perm pairs) :
    (input.withPairs pairs).keys = input.keys :=
  (LookupKeys.analyze_of_perm order apart).symm

theorem admissible_withPairs (order : input.info.pairs.Perm pairs) :
    (input.withPairs pairs).Admissible ↔ input.Admissible := by
  constructor
  · intro admissible
    exact { admissible with pairs := fun pair member => admissible.pairs pair (order.mem_iff.1 member) }
  · intro admissible
    exact { admissible with pairs := fun pair member => admissible.pairs pair (order.mem_iff.2 member) }

theorem exists_accept_withPairs (apart : input.LandsApart) (order : input.info.pairs.Perm pairs) :
    (∃ residual, input.accept = .ok residual) ↔ ∃ residual, (input.withPairs pairs).accept = .ok residual := by
  simp only [accept_eq_ok, exists_and_left, admissible_withPairs order, keys_withPairs apart order]
  refine and_congr_right fun admissible => ?_
  exact JoinInfo.exists_residual_of_perm order rfl fun condition member => (admissible.conditions condition member).2

end JoinInput

namespace Execution

def conjuncts (made : Execution) : List Expr := (made.residual.map Expr.conjuncts).getD []

def Reordered (made made' : Execution) : Prop :=
  { made with residual := none } = { made' with residual := none } ∧ made.conjuncts.Perm made'.conjuncts

end Execution

namespace JoinPlan

/-- The same plan, the order of the residual's conjuncts aside. -/
structure Reordered (plan other : JoinPlan) : Prop where
  keys : plan.keys = other.keys
  row : plan.row = other.row
  async : plan.asyncOptions = other.asyncOptions
  conjuncts : plan.conjuncts.Perm other.conjuncts
  execution : ∀ mode, Outcome.Agree Execution.Reordered (plan.execution mode) (other.execution mode)

variable {input : JoinInput} {pairs : List JoinPair} {plan other : JoinPlan}

theorem reordered_of_withPairs (apart : plan.input.LandsApart) (order : plan.input.info.pairs.Perm pairs)
    (same : other.input = plan.input.withPairs pairs) : Reordered plan other := by
  obtain ⟨_, residual, accepted⟩ := other
  cases same
  let other : JoinPlan := ⟨plan.input.withPairs pairs, residual, accepted⟩
  have keys : plan.keys = other.keys := (JoinInput.keys_withPairs apart order).symm
  -- So the other residual is built with the same keys, and its equalities are the same up to order.
  have built : other.input.info.residual plan.keys plan.input.driving.length plan.row = .ok residual :=
    keys ▸ other.residual_built
  have pairs : plan.input.info.pairs.Perm other.input.info.pairs := order
  have conjuncts : plan.conjuncts.Perm other.conjuncts :=
    JoinInfo.conjuncts_residual_perm pairs rfl plan.residual_built built
  have coverage : plan.coversPrimaryKey = other.coversPrimaryKey := by
    rw [coversPrimaryKey, coversPrimaryKey, keys]
    rfl
  have made (async : AsyncOptions) (retry : Option Retry) (covered upsert : Bool) :
      (plan.executionWith async retry covered upsert).Reordered (other.executionWith async retry covered upsert) := by
    refine ⟨?_, conjuncts⟩
    rw [executionWith, executionWith, keys]
    rfl
  exact {
    keys, conjuncts
    row := rfl
    async := rfl
    execution := agree_execution (checkKeys_congr keys rfl rfl rfl) coverage (made _ _ _ _) fun _ => made _ _ _ _ }

theorem build_withPairs (apart : input.LandsApart) (order : input.info.pairs.Perm pairs) :
    ((∃ plan, build input = .ok plan) ↔ ∃ other, build (input.withPairs pairs) = .ok other) ∧
      ∀ plan other, build input = .ok plan → build (input.withPairs pairs) = .ok other → Reordered plan other := by
  constructor
  · rw [exists_build_eq_ok, exists_build_eq_ok]
    exact JoinInput.exists_accept_withPairs apart order
  · intro plan other built built'
    have same : plan.input = input := build_eq_ok.1 built
    subst same
    exact reordered_of_withPairs apart order (build_eq_ok.1 built')

def aliases : JoinPlan where
  input := {
    driving := [⟨"a", .int32, false, []⟩, ⟨"b", .utf8, true, []⟩, ⟨"c", .utf8, true, []⟩, ⟨"d", .utf8, true, []⟩]
    table := ⟨"D", [⟨"id", .int64, false, []⟩, ⟨"nick", .utf8, true, []⟩], some ["id"], ⟨true, false⟩⟩
    program := some {
      input := [⟨"id", .int64, false, []⟩, ⟨"nick", .utf8, true, []⟩]
      columns := [(.call (.function "UPPER") [.ref 1 .utf8] .utf8, "upper_nick"), (.ref 1 .utf8, "nick"),
        (.ref 0 .int64, "id")]
      filter := none
      sound := rfl }
    joinType := .leftOuter
    info := ⟨[⟨0, 2⟩, ⟨1, 0⟩, ⟨2, 1⟩, ⟨3, 0⟩], []⟩ }
  residual := some (.call .and [.call .eq [.ref 1 .utf8, .ref 4 .utf8] .boolean,
    .call .eq [.ref 3 .utf8, .ref 4 .utf8] .boolean] .boolean)
  accepted := rfl

theorem build_aliases_withPairs :
    aliases.input.LandsApart ∧ aliases.input.info.pairs.Perm aliases.input.info.pairs.reverse ∧
      build aliases.input = .ok aliases ∧
        ((∃ plan, build aliases.input = .ok plan) ↔
          ∃ other, build (aliases.input.withPairs aliases.input.info.pairs.reverse) = .ok other) ∧
          ∀ plan other, build aliases.input = .ok plan →
            build (aliases.input.withPairs aliases.input.info.pairs.reverse) = .ok other → Reordered plan other := by
  have apart : aliases.input.LandsApart := by decide
  have order := (List.reverse_perm aliases.input.info.pairs).symm
  exact ⟨apart, order, build_eq_ok.2 rfl, build_withPairs apart order⟩

end JoinPlan

end LookupJoin
