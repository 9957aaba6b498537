import LookupJoin.Proofs.Plan.Comparison
import LookupJoin.Proofs.Plan.Readiness
/-!
Literals handed to the lookup. A conjunct of the filter that fixes a column was checked as a comparison, and nothing
looks at its types again when the plan is made ready. Main statements: where the filter was made by checked
constructors, a literal that a column is fixed to can be compared with the column, though neither of their types need
stand for the other; and each literal that can be compared with a column comes to be its key for some plan.
-/
namespace LookupJoin

variable {casts : CastRule}

/-- A comparison made by checked constructors fixes a column to a literal that can be compared with it. -/
theorem LookupKeys.comparable_of_constantEntry? {expr : Expr} {column : Nat} {type : DataType} {value : Scalar}
    (constructed : expr.Constructed casts) (entry : constantEntry? expr = some (column, .constant type value)) :
    value.type.comparable type = true := by
  obtain ⟨_, _, literalType, _, same, shape⟩ := constantEntry?_eq_some entry
  cases same
  rcases shape with rfl | rfl
  · have literal : literalType = value.type := (constructed.founded _ List.mem_cons_self).founded
    rw [← literal]
    exact constructed.comparable
  · have literal : literalType = value.type :=
      (constructed.founded _ (List.mem_cons_of_mem _ (List.mem_singleton_self _))).founded
    rw [← literal, DataType.comparable_comm]
    exact constructed.comparable

namespace JoinPlan

def FilterConstructed (casts : CastRule) (plan : JoinPlan) : Prop :=
  ∀ filter ∈ plan.input.program.bind Calc.filter, filter.Constructed casts

variable {plan : JoinPlan} {column : Nat} {type : DataType} {value : Scalar}

theorem comparable_of_constant (constructed : plan.FilterConstructed casts)
    (fixed : plan.keys.get? column = some (.constant type value)) : value.type.comparable type = true := by
  rcases LookupKeys.get?_analyze_eq_some fixed with ⟨_, _, same⟩ | filtered
  · cases same
  · obtain ⟨filter, kept, conjunct, member, entry⟩ := LookupKeys.conjunct_of_get?_ofFilter filtered
    exact LookupKeys.comparable_of_constantEntry? ((constructed filter kept).conjunct conjunct member) entry

theorem constant_key_comparable {mode : ExecutionMode} {made : Execution} (constructed : plan.FilterConstructed casts)
    (executed : plan.execution mode = .ok made) (fixed : made.keys.get? column = some (.constant type value)) :
    (∃ field, plan.table.schema[column]? = some field ∧ field.type = type) ∧
      ((value.type.isNull = true ∨ type.isNull = true) ∨ (value.type.isNumeric = true ∧ type.isNumeric = true) ∨
        compatible value.type type = true) := by
  rw [(supplies_of_execution executed).keys] at fixed
  rw [compatible_iff]
  exact ⟨(keyFits_of_get? fixed).type type value rfl, DataType.comparable_iff.1 (comparable_of_constant constructed fixed)⟩

def equated (type : DataType) (value : Scalar) : Expr := .call .eq [.ref 0 type, .literal value] .boolean

theorem check_equated (type : DataType) (value : Scalar) :
    Calc.check [⟨"c", type, true, []⟩] [(.ref 0 type, "c")] (some (equated type value)) = .ok () := by
  have column : Expr.validate [⟨"c", type, true, []⟩] (.ref 0 type) = .ok () := Expr.validate_ref Nat.zero_lt_one
  have literal : Expr.validate [⟨"c", type, true, []⟩] (.literal value) = .ok () := rfl
  have valid : Expr.validate [⟨"c", type, true, []⟩] (equated type value) = .ok () :=
    Expr.validate_call.2 (List.forall_mem_cons.2 ⟨column, List.forall_mem_singleton.2 literal⟩)
  refine Calc.check_eq_ok.2 ⟨List.forall_mem_singleton.2 column, fun filter same => ?_⟩
  cases same
  exact ⟨valid, rfl⟩

def fixing (type : DataType) (value : Scalar) : Calc :=
  ⟨[⟨"c", type, true, []⟩], [(.ref 0 type, "c")], some (equated type value), check_equated type value⟩

def fixedTo (type : DataType) (value : Scalar) : JoinPlan where
  input := {
    driving := []
    table := ⟨"D", (fixing type value).input, none, ⟨true, true⟩⟩
    program := some (fixing type value)
    joinType := .inner
    info := ⟨[], []⟩ }
  residual := none
  accepted := JoinInput.accept_eq_ok.2 ⟨⟨rfl, by simp, by simp, by simp, by simp⟩, rfl⟩

theorem execution_fixedTo (type : DataType) (value : Scalar) (mode : ExecutionMode) :
    ∃ made, (fixedTo type value).execution mode = .ok made ∧ made.keys.get? 0 = some (.constant type value) := by
  cases mode with
  | batch => exact ⟨_, rfl, rfl⟩
  | streaming => exact ⟨_, rfl, rfl⟩

theorem constructed_onlyColumn (type : DataType) : (Expr.ref 0 type).Constructed casts := by
  have made : Expr.column [⟨"c", type, true, []⟩] 0 = .ok (.ref 0 type) := rfl
  exact .column made

theorem constructed_fixedTo (type : DataType) (value : Scalar) : (fixedTo type value).Constructed casts := by
  intro program same
  cases same
  exact List.forall_mem_singleton.2 (constructed_onlyColumn type)

theorem filterConstructed_fixedTo (comparable : type.comparable value.type = true) :
    (fixedTo type value).FilterConstructed casts := by
  intro filter same
  cases same
  have made : Expr.equals (.ref 0 type) (.literal value) = .ok (equated type value) :=
    Expr.equals_eq_ok.2 ⟨comparable, rfl⟩
  refine .apply (List.forall_mem_cons.2 ⟨constructed_onlyColumn type, ?_⟩) made
  exact List.forall_mem_singleton.2 (.literal value)

/-- Each comparable literal comes to be a key, and is handed to the lookup. -/
theorem exists_constant_key (comparable : type.comparable value.type = true) :
    ∃ plan : JoinPlan, plan.Constructed casts ∧ plan.FilterConstructed casts ∧
      ∀ mode, ∃ made, plan.execution mode = .ok made ∧ made.keys.get? 0 = some (.constant type value) :=
  ⟨fixedTo type value, constructed_fixedTo type value, filterConstructed_fixedTo comparable,
    execution_fixedTo type value⟩

def oneAndHalf : Scalar := .float .double (some 0x3ff8000000000000)

theorem constant_key_comparable_oneAndHalf :
    ∃ made, (fixedTo .int64 oneAndHalf).FilterConstructed DataType.castable ∧
      (fixedTo .int64 oneAndHalf).execution .streaming = .ok made ∧
        made.keys.get? 0 = some (.constant .int64 oneAndHalf) ∧
          (∃ field, (fixedTo .int64 oneAndHalf).table.schema[0]? = some field ∧ field.type = .int64) ∧
            ((oneAndHalf.type.isNull = true ∨ DataType.int64.isNull = true) ∨
              (oneAndHalf.type.isNumeric = true ∧ DataType.int64.isNumeric = true) ∨
                compatible oneAndHalf.type .int64 = true) := by
  have constructed : (fixedTo .int64 oneAndHalf).FilterConstructed DataType.castable := filterConstructed_fixedTo rfl
  obtain ⟨made, executed, fixed⟩ := execution_fixedTo .int64 oneAndHalf .streaming
  exact ⟨made, constructed, executed, fixed, constant_key_comparable constructed executed fixed⟩

theorem not_compatible_oneAndHalf :
    build (fixedTo .int32 oneAndHalf).input = .ok (fixedTo .int32 oneAndHalf) ∧
      (fixedTo .int32 oneAndHalf).Constructed DataType.castable ∧
        (fixedTo .int32 oneAndHalf).FilterConstructed DataType.castable ∧
        (∀ mode, ∃ made, (fixedTo .int32 oneAndHalf).execution mode = .ok made ∧
          made.keys.get? 0 = some (.constant .int32 oneAndHalf)) ∧
            compatible oneAndHalf.type .int32 = false :=
  ⟨build_eq_ok.2 rfl, constructed_fixedTo _ _, filterConstructed_fixedTo rfl, execution_fixedTo _ _, rfl⟩

end JoinPlan

end LookupJoin
