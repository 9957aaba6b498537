import LookupJoin.Plan
/-!
Joins whose lookup side is a logical plan. A name stands for the last table registered under it, however many
follow under other names. Main statement: the lookup side can be used exactly when it is the scan of a table
under snapshots and at most one calculation at the top; planning then finds no table of that name, or comes
down to the join over the last one, with the calculation and without regard to the snapshots.
-/
namespace LookupJoin

namespace Catalog

def ofList (tables : List LookupTable) : Catalog := tables.foldl register empty

theorem get?_foldl_register {tables : List LookupTable} {name : String}
    (others : ∀ table ∈ tables, table.name ≠ name) (catalog : Catalog) :
    (tables.foldl register catalog).get? name = catalog.get? name := by
  induction tables generalizing catalog with
  | nil => rfl
  | cons table rest ih =>
    obtain ⟨other, others⟩ := List.forall_mem_cons.1 others
    rw [List.foldl_cons, ih others, get?_register, if_neg other]

theorem resolve_ofList_of_never {tables : List LookupTable} {name : String}
    (never : ∀ table ∈ tables, table.name ≠ name) : (ofList tables).resolve name = .error (.tableNotFound name) := by
  rw [resolve, ofList, get?_foldl_register never, get?_empty]

theorem resolve_ofList_of_last (before : List LookupTable) {table : LookupTable} {after : List LookupTable}
    (last : ∀ later ∈ after, later.name ≠ table.name) :
    (ofList (before ++ table :: after)).resolve table.name = .ok table := by
  rw [resolve, ofList, List.foldl_append, List.foldl_cons, get?_foldl_register last, get?_register, if_pos rfl]

theorem never_or_last (tables : List LookupTable) (name : String) :
    (∀ table ∈ tables, table.name ≠ name) ∨
      ∃ before table after, tables = before ++ table :: after ∧ table.name = name ∧
        ∀ later ∈ after, later.name ≠ table.name := by
  induction tables with
  | nil => exact .inl (by simp)
  | cons head rest ih =>
    rcases ih with never | ⟨before, table, after, rfl, here, last⟩
    · by_cases here : head.name = name
      · subst here
        exact .inr ⟨[], head, rest, rfl, rfl, never⟩
      · exact .inl (List.forall_mem_cons.2 ⟨here, never⟩)
    · exact .inr ⟨head :: before, table, after, rfl, here, last⟩

end Catalog

namespace LogicalPlan

def snapshots (table : String) : Nat → LogicalPlan
  | 0 => .scan table
  | depth + 1 => .snapshot (snapshots table depth)

def lookup (program : Option Calc) (table : String) (depth : Nat) : LogicalPlan :=
  match program with
  | none => snapshots table depth
  | some program => .calculation program (snapshots table depth)

theorem scanned?_snapshots (table : String) (depth : Nat) : (snapshots table depth).scanned? = some table := by
  induction depth with
  | zero => rfl
  | succ depth ih => exact ih

theorem exists_snapshots_of_scanned? {plan : LogicalPlan} {table : String} (found : plan.scanned? = some table) :
    ∃ depth, plan = snapshots table depth := by
  fun_induction scanned? plan with
  | case1 other =>
    cases found
    exact ⟨0, rfl⟩
  | case2 input ih =>
    obtain ⟨depth, rfl⟩ := ih found
    exact ⟨depth + 1, rfl⟩
  | case3 => cases found

theorem lookupSource?_lookup (program : Option Calc) (table : String) (depth : Nat) :
    (lookup program table depth).lookupSource? = some (program, table) := by
  cases program with
  | none => cases depth <;> simp [lookup, snapshots, lookupSource?, scanned?, scanned?_snapshots]
  | some program => simp [lookup, lookupSource?, scanned?_snapshots]

theorem lookupSource?_eq_some_iff {plan : LogicalPlan} {program : Option Calc} {table : String} :
    plan.lookupSource? = some (program, table) ↔ ∃ depth, plan = lookup program table depth := by
  constructor
  · intro source
    unfold lookupSource? at source
    split at source
    next inner input =>
      obtain ⟨scanned, found, same⟩ := Option.map_eq_some_iff.1 source
      cases same
      obtain ⟨depth, rfl⟩ := exists_snapshots_of_scanned? found
      exact ⟨depth, rfl⟩
    next =>
      obtain ⟨scanned, found, same⟩ := Option.map_eq_some_iff.1 source
      cases same
      exact exists_snapshots_of_scanned? found
  · rintro ⟨depth, rfl⟩
    exact lookupSource?_lookup program table depth

example (program : Calc) : (snapshot (.calculation program (.scan "D"))).lookupSource? = none := rfl

end LogicalPlan

namespace JoinPlan

variable {tables : List LookupTable} {driving : Schema} {joinType : JoinType} {info : JoinInfo}
  {hint : Option JoinHint} {side : LogicalPlan} {outcome : Except Error JoinPlan}

/-- What planning over registered tables comes to. -/
inductive Planned (tables : List LookupTable) (driving : Schema) (joinType : JoinType) (info : JoinInfo)
    (hint : Option JoinHint) : LogicalPlan → Except Error JoinPlan → Prop
  | unsupported {side : LogicalPlan} (other : ∀ program name depth, side ≠ .lookup program name depth) :
    Planned tables driving joinType info hint side (.error (.unsupportedShape side.name))
  | missing (program : Option Calc) {name : String} (depth : Nat) (never : ∀ table ∈ tables, table.name ≠ name) :
    Planned tables driving joinType info hint (.lookup program name depth) (.error (.tableNotFound name))
  | found (program : Option Calc) (depth : Nat) {before : List LookupTable} {table : LookupTable}
      {after : List LookupTable} (registered : tables = before ++ table :: after)
      (last : ∀ later ∈ after, later.name ≠ table.name) :
    Planned tables driving joinType info hint (.lookup program table.name depth)
      (build { driving, table, program, joinType, info, hint, settings := default, insertOnly := true })

theorem ofLogical_eq_of_planned (planned : Planned tables driving joinType info hint side outcome) :
    ofLogical driving side joinType info hint (.ofList tables) = outcome := by
  cases planned with
  | unsupported other =>
    have none : side.lookupSource? = none := by
      refine Option.eq_none_iff_forall_ne_some.2 fun ⟨program, name⟩ source => ?_
      obtain ⟨depth, same⟩ := LogicalPlan.lookupSource?_eq_some_iff.1 source
      exact other program name depth same
    rw [ofLogical, JoinInput.ofLogical, none]
    rfl
  | missing program depth never =>
    rw [ofLogical, JoinInput.ofLogical, LogicalPlan.lookupSource?_lookup]
    simp only [Catalog.resolve_ofList_of_never never]
    rfl
  | @found program depth before table after registered last =>
    subst registered
    rw [ofLogical, JoinInput.ofLogical, LogicalPlan.lookupSource?_lookup]
    simp only [Catalog.resolve_ofList_of_last before last]
    rfl

theorem exists_planned (tables : List LookupTable) (driving : Schema) (joinType : JoinType) (info : JoinInfo)
    (hint : Option JoinHint) (side : LogicalPlan) :
    ∃ outcome, Planned tables driving joinType info hint side outcome := by
  by_cases shape : ∃ program name depth, side = .lookup program name depth
  · obtain ⟨program, name, depth, rfl⟩ := shape
    -- A name that was ever registered has a last registration.
    rcases Catalog.never_or_last tables name with never | ⟨before, table, after, registered, rfl, last⟩
    · exact ⟨_, .missing program depth never⟩
    · exact ⟨_, .found program depth registered last⟩
  · have other : ∀ program name depth, side ≠ .lookup program name depth :=
      fun program name depth same => shape ⟨program, name, depth, same⟩
    exact ⟨_, .unsupported other⟩

theorem planned_iff (tables : List LookupTable) (driving : Schema) (joinType : JoinType) (info : JoinInfo)
    (hint : Option JoinHint) (side : LogicalPlan) :
    (∀ program name, side.lookupSource? = some (program, name) ↔ ∃ depth, side = .lookup program name depth) ∧
      ∀ outcome, Planned tables driving joinType info hint side outcome ↔
        ofLogical driving side joinType info hint (.ofList tables) = outcome := by
  refine ⟨fun program name => LogicalPlan.lookupSource?_eq_some_iff, fun outcome => ⟨ofLogical_eq_of_planned, ?_⟩⟩
  rintro rfl
  obtain ⟨outcome, planned⟩ := exists_planned tables driving joinType info hint side
  exact ofLogical_eq_of_planned planned ▸ planned

end JoinPlan

end LookupJoin
