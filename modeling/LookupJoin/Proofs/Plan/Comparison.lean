import LookupJoin.DataType.Castable
import LookupJoin.Proofs.Execution
import LookupJoin.Proofs.Expr.Construction
import LookupJoin.Proofs.Plan.LostPair
import LookupJoin.Proofs.Plan.Validity
/-!
The types a pair compares. A pair in the residual is checked between its driving field and the output it names,
one handed to the lookup between its driving field and the raw column behind that output. Main statement: where
the outputs were made by checked constructors and each driving field is compared once, the second check lets
through what the first one would, and beyond that only lists that part from a column of lists.
-/
namespace LookupJoin

theorem Calc.typeAt_output {program : Calc} {ordinal : Nat} {expr : Expr}
    (found : program.projection? ordinal = some expr) : program.output.typeAt ordinal = expr.type := by
  obtain ⟨column, present, rfl⟩ := Option.map_eq_some_iff.1 ((List.getElem?_map ..).symm.trans found)
  rw [Schema.typeAt, output, List.getElem?_map, present]
  rfl

namespace JoinPlan

/-- The equality of the pair can be written down. -/
def Compares (plan : JoinPlan) (pair : JoinPair) : Prop :=
  (plan.input.driving.typeAt pair.source).comparable (plan.input.lookupSide.typeAt pair.target) = true

instance (plan : JoinPlan) (pair : JoinPair) : Decidable (plan.Compares pair) :=
  inferInstanceAs (Decidable (_ = true))

/-- The pair lands on a column of lists from which its two types part. -/
def Parts (plan : JoinPlan) (pair : JoinPair) : Prop :=
  ∃ column, pair.column? plan.input.program = some column ∧
    DataType.Parted (plan.table.schema.typeAt column) (plan.input.driving.typeAt pair.source)
      (plan.input.lookupSide.typeAt pair.target)

def Constructed (casts : CastRule) (plan : JoinPlan) : Prop :=
  ∀ program ∈ plan.input.program, ∀ expr ∈ program.projections, expr.Constructed casts

variable {casts : CastRule} {plan : JoinPlan} {pair : JoinPair} {column source : Nat}

theorem compatible_iff {left right : DataType} :
    compatible left right = true ↔
      DataType.Interoperable left right ∨ DataType.Interoperable right left := by
  rw [compatible, Bool.or_eq_true, DataType.interoperable_iff, DataType.interoperable_iff]

theorem interoperable_of_column? (constructed : plan.Constructed casts)
    (landed : pair.column? plan.input.program = some column) :
    DataType.Interoperable (plan.table.schema.typeAt column) (plan.input.lookupSide.typeAt pair.target) := by
  unfold JoinInput.lookupSide
  cases present : plan.input.program with
  | none =>
    rw [present] at landed
    cases landed
    exact .same _
  | some program =>
    rw [present] at landed
    obtain ⟨expr, found, forwards⟩ := Option.bind_eq_some_iff.1 landed
    have faithful : expr.Faithful := (constructed program present expr (List.mem_of_getElem? found)).faithful
    have input : program.input = plan.table.schema := plan.admissible.program program present
    have steps := (Expr.interoperable_of_source? (Calc.validate_projection found) faithful forwards).2
    rwa [← input, Calc.typeAt_output found]

theorem compatible_of_checkKey (passed : plan.checkKey (column, .field source) = .ok ()) :
    compatible (plan.input.driving.typeAt source) (plan.table.schema.typeAt column) = true := by
  obtain ⟨target, field, present, found, fits⟩ := checkKey_field_eq_ok.1 passed
  rw [Schema.typeAt, Schema.typeAt, present, found]
  exact fits

theorem checkKey_of_execution {mode : ExecutionMode} {made : Execution} {key : LookupKey}
    (executed : plan.execution mode = .ok made) (found : plan.keys.get? column = some key) :
    plan.checkKey (column, key) = .ok () := by
  obtain ⟨checked, _⟩ := execution_eq_ok.1 executed
  exact (checkKeys_eq_ok.1 checked).2 _ (LookupKeys.get?_eq_some_iff.1 found)

/-- A pair that feeds no key was checked between the two types it compares. -/
theorem compares_of_unread (member : pair ∈ plan.input.info.pairs)
    (unread : plan.keys.reads pair.source = false) : plan.Compares pair := by
  have valid : plan.input.Valid := JoinInput.valid_of_accept plan.accepted
  exact valid.comparable pair member (LookupKeys.reads_eq_false_iff.1 unread)

/-- A pair that is the key of its column was checked between its driving field and that column. -/
theorem compares_iff_of_key {mode : ExecutionMode} {made : Execution} (constructed : plan.Constructed casts)
    (executed : plan.execution mode = .ok made)
    (landed : pair.column? plan.input.program = some column)
    (key : plan.keys.get? column = some (.field pair.source)) : plan.Compares pair ↔ ¬plan.Parts pair := by
  have output := interoperable_of_column? constructed landed
  have checked := compatible_of_checkKey (checkKey_of_execution executed key)
  constructor
  · rintro comparable ⟨_, _, parted⟩
    exact parted.not_comparable comparable
  · intro together
    rcases compatible_iff.1 checked with narrower | wider
    · -- The driving field widens to the column and with it to the output.
      have steps := narrower.trans output
      exact DataType.comparable_iff.2 (.inr (.inr (.inl steps)))
    · refine (DataType.comparable_iff_not_parted wider output).2 fun parted => ?_
      exact together ⟨column, landed, parted⟩

theorem compares_iff_not_parts {mode : ExecutionMode} {made : Execution}
    (distinct : (plan.input.info.pairs.map JoinPair.source).Nodup) (constructed : plan.Constructed casts)
    (executed : plan.execution mode = .ok made) :
    ∀ pair ∈ plan.input.info.pairs, plan.Compares pair ↔ ¬plan.Parts pair := by
  intro pair member
  -- With one pair for each driving field, the pair is the key of its own column or feeds none.
  rcases JoinPair.not_lost_iff.1 (JoinPair.not_lost_of_nodup distinct member) with settled | unread
  · obtain ⟨column, landed, key⟩ := JoinPair.settled_iff_key.1 settled
    exact compares_iff_of_key constructed executed landed key
  · have comparable := compares_of_unread member unread
    exact iff_of_true comparable fun ⟨_, _, parted⟩ => parted.not_comparable comparable

def integers (signed : Bool) (width : IntWidth) : DataType := .list false ⟨"item", .flat (.int signed width), true, []⟩

/-- Lists of unsigned bytes, put out with two bytes for each and compared with signed integers of two bytes. -/
def widenedLists : JoinPlan where
  input := {
    driving := [⟨"b", integers true .w16, true, []⟩]
    table := ⟨"D", [⟨"tags", integers false .w8, true, []⟩], none, ⟨true, false⟩⟩
    program := some {
      input := [⟨"tags", integers false .w8, true, []⟩]
      columns := [(.call .cast [.ref 0 (integers false .w8)] (integers false .w16), "tags")]
      filter := none
      sound := rfl }
    joinType := .inner
    info := ⟨[⟨0, 0⟩], []⟩ }
  residual := none
  accepted := rfl

theorem constructed_widenedLists : widenedLists.Constructed DataType.castable := by
  rintro program ⟨⟩ expr member
  obtain rfl := List.mem_singleton.1 member
  have column : Expr.column widenedLists.table.schema 0 = .ok (.ref 0 (integers false .w8)) := rfl
  have castable : (integers false .w8).castable (integers false .w16) = true :=
    DataType.castable_list.trans (DataType.castable_flat.2 (.inr rfl))
  exact .castTo (.column column) (Expr.castTo_eq_ok.2 ⟨castable, rfl⟩)

theorem compares_widenedLists :
    ∃ made, (widenedLists.input.info.pairs.map JoinPair.source).Nodup ∧
      widenedLists.Constructed DataType.castable ∧ widenedLists.execution .streaming = .ok made ∧
        ∀ pair ∈ widenedLists.input.info.pairs, widenedLists.Compares pair ↔ ¬widenedLists.Parts pair := by
  have distinct : (widenedLists.input.info.pairs.map JoinPair.source).Nodup := by decide
  have constructed := constructed_widenedLists
  have executed : widenedLists.execution .streaming = .ok _ := rfl
  exact ⟨_, distinct, constructed, executed,
    compares_iff_not_parts distinct constructed executed⟩

theorem not_compares_widenedLists :
    build widenedLists.input = .ok widenedLists ∧ (widenedLists.input.info.pairs.map JoinPair.source).Nodup ∧
      widenedLists.Constructed DataType.castable ∧ (∀ mode, ∃ made, widenedLists.execution mode = .ok made) ∧
        ⟨0, 0⟩ ∈ widenedLists.input.info.pairs ∧ ¬widenedLists.Compares ⟨0, 0⟩ := by
  refine ⟨build_eq_ok.2 rfl, by decide, constructed_widenedLists, ?_, by decide, by decide⟩
  intro mode
  cases mode with
  | batch => exact ⟨_, rfl⟩
  | streaming => exact ⟨_, rfl⟩

end JoinPlan

end LookupJoin
