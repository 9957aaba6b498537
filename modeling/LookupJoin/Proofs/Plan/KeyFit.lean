import LookupJoin.Execution
import LookupJoin.Proofs.LookupKey.Latest
import LookupJoin.Proofs.Plan.Accepted
import LookupJoin.Proofs.PrimaryKey.Unknown
/-!
Keys that fit. The key of a column stands on a column of the table; it is read from a field of the driving
row, or it is a literal of the type of the column. A plan holds the acceptance of its input, whether it was
built from that input, from a logical plan or over another driving row, so what is said here of every plan is
said of all of them. Main statement: the keys of a plan fit, and therefore making it ready for execution
reads no field that is not there.
-/
namespace LookupJoin

namespace LookupKeys

theorem ref_of_constantEntry? {expr : Expr} {column : Nat} {key : LookupKey}
    (entry : constantEntry? expr = some (column, key)) :
    ∃ type value, key = .constant type value ∧ (column, type) ∈ expr.refs := by
  obtain ⟨value, type, literalType, result, constant, shape⟩ := constantEntry?_eq_some entry
  refine ⟨type, value, constant, ?_⟩
  rcases shape with rfl | rfl <;> simp [Expr.refs, Expr.refsAll]

end LookupKeys

namespace JoinPlan

/-- The key stands on a column of the table, and what the column is fixed to fits. -/
structure KeyFits (plan : JoinPlan) (column : Nat) (key : LookupKey) : Prop where
  inside : column < plan.table.schema.length
  source : ∀ source, key = .field source → source < plan.input.driving.length
  type : ∀ type value, key = .constant type value →
    ∃ field, plan.table.schema[column]? = some field ∧ field.type = type

/-- Making the plan ready looks for a field beyond the end of a row. -/
def Overruns (plan : JoinPlan) (mode : ExecutionMode) : Prop :=
  ∃ role index len, plan.execution mode = .error (.indexOutOfRange role index len)

variable {plan : JoinPlan}

theorem column_lt_length {pair : JoinPair} {column : Nat} (member : pair ∈ plan.input.info.pairs)
    (landed : pair.column? plan.input.program = some column) : column < plan.table.schema.length := by
  have inside := (plan.admissible.pairs pair member).2
  unfold JoinInput.lookupSide at inside
  cases present : plan.input.program with
  | none =>
    rw [present] at landed inside
    cases landed
    exact inside
  | some program =>
    rw [present] at landed
    obtain ⟨expr, found, forwards⟩ := Option.bind_eq_some_iff.1 landed
    obtain ⟨type, read⟩ := Expr.mem_refs_of_source? forwards
    have input : program.input = plan.table.schema := plan.admissible.program program present
    rw [← input]
    exact Expr.ref_lt_length (Calc.validate_projection found) read

theorem field_of_conjunct {predicate conjunct : Expr} {ref : Nat × DataType}
    (filtered : predicate ∈ plan.input.program.bind Calc.filter) (member : conjunct ∈ predicate.conjuncts)
    (read : ref ∈ conjunct.refs) : ∃ field, plan.table.schema[ref.1]? = some field ∧ field.type = ref.2 := by
  obtain ⟨program, present, kept⟩ := Option.bind_eq_some_iff.1 filtered
  have input : program.input = plan.table.schema := plan.admissible.program program present
  rw [← input]
  exact Expr.validate_eq_ok.1 (Calc.validate_filter kept) ref (Expr.mem_refs_of_conjunct member read)

theorem literal_of_filter {column : Nat} {key : LookupKey}
    (fixed : (LookupKeys.ofFilter (plan.input.program.bind Calc.filter)).get? column = some key) :
    ∃ field value, plan.table.schema[column]? = some field ∧ key = .constant field.type value := by
  obtain ⟨predicate, filtered, conjunct, member, entry⟩ := LookupKeys.conjunct_of_get?_ofFilter fixed
  obtain ⟨type, value, constant, read⟩ := LookupKeys.ref_of_constantEntry? entry
  obtain ⟨field, present, typed⟩ := field_of_conjunct filtered member read
  exact ⟨field, value, present, typed ▸ constant⟩

theorem keyFits_of_get? {column : Nat} {key : LookupKey} (found : plan.keys.get? column = some key) :
    plan.KeyFits column key := by
  -- A pair never gives a literal, the filter never a field, so each has one half to show.
  rcases LookupKeys.get?_analyze_eq_some found with ⟨last, landing, rfl⟩ | fixed
  · obtain ⟨member, landed⟩ := LookupKeys.lastPair?_eq_some landing
    have source : last.source < plan.input.driving.length := (plan.admissible.pairs last member).1
    refine ⟨column_lt_length member landed, ?_, ?_⟩
    · intro other same
      cases same
      exact source
    · intro type value same
      cases same
  · obtain ⟨field, value, present, rfl⟩ := literal_of_filter fixed
    refine ⟨(List.getElem?_eq_some_iff.1 present).1, ?_, ?_⟩
    · intro source same
      cases same
    · intro type other same
      cases same
      exact ⟨field, present, rfl⟩

theorem checkKey_eq_error {column : Nat} {key : LookupKey} {fault : Error} (fits : plan.KeyFits column key)
    (refused : plan.checkKey (column, key) = .error fault) :
    ∃ source target field, key = .field source ∧ plan.table.schema[column]? = some target ∧
      plan.input.driving[source]? = some field ∧ compatible field.type target.type = false ∧
      fault = .keyTypes target.name plan.table.name target.type field.name field.type := by
  cases key with
  | constant type value => cases refused
  | field source =>
    have target := List.getElem?_eq_getElem fits.inside
    have field := List.getElem?_eq_getElem (fits.source source rfl)
    simp only [checkKey, target, field] at refused
    split at refused
    next agree => cases refused
    next differ =>
      cases refused
      exact ⟨source, _, _, rfl, target, field, Bool.eq_false_iff.2 differ, rfl⟩

/-- A plan is refused for want of keys, for the types of a key, or for a column its primary key names. -/
theorem execution_eq_error {mode : ExecutionMode} {fault : Error}
    (refused : plan.execution mode = .error fault) :
    fault = .noLookupKey plan.table.name ∨
      (∃ column columnType field fieldType,
        fault = .keyTypes column plan.table.name columnType field fieldType) ∨
      ∃ column, fault = .unknownColumn plan.table.name column := by
  -- Past the keys it is only the primary key that can fail, in streaming mode.
  rcases Outcome.bind_eq_error.1 refused with unfit | ⟨_, _, rest⟩
  · unfold checkKeys at unfit
    split at unfit
    next none =>
      cases unfit
      exact .inl rfl
    next some =>
      obtain ⟨⟨column, key⟩, member, refused⟩ := Outcome.exists_of_forM_eq_error unfit
      have fits : plan.KeyFits column key := keyFits_of_get? (LookupKeys.get?_eq_some_iff.2 member)
      obtain ⟨_, target, field, _, _, _, _, same⟩ := checkKey_eq_error fits refused
      exact .inr (.inl ⟨target.name, target.type, field.name, field.type, same⟩)
  · cases mode with
    | batch => cases rest
    | streaming =>
      rcases Outcome.bind_eq_error.1 rest with uncovered | ⟨_, _, made⟩
      · obtain ⟨_, _, column, _, same⟩ := PrimaryKey.outputIndices_eq_error.1 (Outcome.map_eq_error.1 uncovered)
        exact .inr (.inr ⟨column, same⟩)
      · cases made

theorem keys_fit_and_never_overrun (plan : JoinPlan) :
    (∀ entry ∈ plan.keys.entries, plan.KeyFits entry.1 entry.2) ∧ ∀ mode, ¬plan.Overruns mode := by
  constructor
  · intro entry member
    exact keyFits_of_get? (LookupKeys.get?_eq_some_iff.2 member)
  · intro mode overruns
    obtain ⟨role, index, len, refused⟩ := overruns
    rcases execution_eq_error refused with same | ⟨_, _, _, _, same⟩ | ⟨_, same⟩
    · cases same
    · cases same
    · cases same

end JoinPlan

end LookupJoin
