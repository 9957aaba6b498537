import LookupJoin.Proofs.Expr.Reference
/-!
Expressions that checked construction admits. A call is admitted when its operator takes its operands, as to
their number and their types; the type the call itself claims is not looked at. An expression is well formed
when all its calls are admitted. Main statements: predicates over a row, well formed, boolean and of the
fields of that row, always conjoin, and what they conjoin to is again such a predicate.
-/
namespace LookupJoin.Expr

variable {casts : CastRule}

theorem apply_eq_ok {op : Operator} {operands : List Expr} {expr : Expr} :
    apply op operands = .ok expr ↔
      callFault? op operands = none ∧ expr = .call op operands (callType op operands) := by
  unfold apply
  split
  next fault faulty => simp [faulty]
  next sound => simp [sound, eq_comm]

theorem apply_eq_error {op : Operator} {operands : List Expr} {fault : Error} :
    apply op operands = .error fault ↔ ∃ cause, callFault? op operands = some cause ∧ fault = .malformed cause := by
  unfold apply
  split
  next cause faulty => simp [faulty, eq_comm]
  next sound => simp [sound]

theorem comparisonFault?_pair {op : Operator} {left right : Expr} :
    comparisonFault? op [left, right] = none ↔ left.type.comparable right.type = true := by
  by_cases comparable : left.type.comparable right.type = true <;> simp [comparisonFault?, comparable]

theorem equals_eq_ok {left right expr : Expr} :
    equals left right = .ok expr ↔
      left.type.comparable right.type = true ∧ expr = .call .eq [left, right] .boolean := by
  rw [equals, apply_eq_ok, callFault?, comparisonFault?_pair, callType]
  simp

theorem operandFault?_eq_none {op : Operator} {operands : List Expr} :
    operandFault? op operands = none ↔ ∀ operand ∈ operands, operand.type.isTruth = true := by
  simp [operandFault?]

theorem connectiveFault?_eq_none {op : Operator} {operands : List Expr} :
    connectiveFault? op operands = none ↔
      2 ≤ operands.length ∧ ∀ operand ∈ operands, operand.type.isTruth = true := by
  unfold connectiveFault?
  split
  next few =>
    have short : ¬2 ≤ operands.length := Nat.not_le.2 few
    simp [short]
  next enough => rw [operandFault?_eq_none, and_iff_right (Nat.not_lt.1 enough)]

/-- The operator takes these operands. A cast takes one that can be cast to its type, a function takes any. -/
def Takes (casts : CastRule) (op : Operator) (operands : List Expr) (type : DataType) : Prop :=
  match op with
  | .function _ => True
  | .cast => ∃ operand, operands = [operand] ∧ casts operand.type type = true
  | op => callFault? op operands = none

inductive WellFormed (casts : CastRule) : Expr → Prop
  | ref (index : Nat) (type : DataType) : WellFormed casts (.ref index type)
  | lit (value : Scalar) (type : DataType) : WellFormed casts (.lit value type)
  | call {op : Operator} {operands : List Expr} {type : DataType} (taken : Takes casts op operands type)
      (formed : ∀ operand ∈ operands, WellFormed casts operand) : WellFormed casts (.call op operands type)

theorem takes_of_callFault? {op : Operator} {operands : List Expr} (type : DataType)
    (sound : callFault? op operands = none) : Takes casts op operands type := by
  cases op with
  | cast => cases sound
  | function name => cases sound
  | _ => exact sound

theorem WellFormed.of_apply {op : Operator} {operands : List Expr} {expr : Expr}
    (applied : apply op operands = .ok expr) (formed : ∀ operand ∈ operands, operand.WellFormed casts) :
    expr.WellFormed casts := by
  obtain ⟨sound, rfl⟩ := apply_eq_ok.1 applied
  exact .call (takes_of_callFault? _ sound) formed

theorem validate_call {row : Schema} {op : Operator} {operands : List Expr} {type : DataType} :
    validate row (.call op operands type) = .ok () ↔ ∀ operand ∈ operands, operand.validate row = .ok () := by
  simp only [validate_eq_ok, refs_call, List.mem_flatMap]
  constructor
  · intro valid operand member ref read
    exact valid ref ⟨operand, member, read⟩
  · intro valid ref read
    obtain ⟨operand, member, read⟩ := read
    exact valid operand member ref read

theorem validate_ref {row : Schema} {index : Nat} (inside : index < row.length) :
    validate row (.ref index (row.typeAt index)) = .ok () := by
  have found := List.getElem?_eq_getElem inside
  refine validate_eq_ok.2 fun ref read => ?_
  obtain rfl := List.mem_singleton.1 read
  exact ⟨row[index], found, by simp [Schema.typeAt, found]⟩

/-- A condition that can be checked on the row. -/
structure PredicateOn (casts : CastRule) (row : Schema) (expr : Expr) : Prop where
  formed : expr.WellFormed casts
  boolean : expr.type = .boolean
  valid : expr.validate row = .ok ()

theorem exists_conjoin_of_isTruth {predicates : List Expr}
    (truths : ∀ predicate ∈ predicates, predicate.type.isTruth = true) :
    ∃ joined, conjoin predicates = .ok joined := by
  match predicates with
  | [] => exact ⟨none, rfl⟩
  | [predicate] => exact ⟨some predicate, rfl⟩
  | first :: second :: rest =>
    have sound : connectiveFault? .and (first :: second :: rest) = none :=
      connectiveFault?_eq_none.2 ⟨by simp, truths⟩
    have applied : apply .and (first :: second :: rest) = .ok _ := apply_eq_ok.2 ⟨sound, rfl⟩
    exact ⟨_, Outcome.map_eq_ok.2 ⟨_, applied, rfl⟩⟩

theorem exists_conjoin_eq_ok {predicates : List Expr}
    (boolean : ∀ predicate ∈ predicates, predicate.type = .boolean) :
    ∃ joined, conjoin predicates = .ok joined := by
  refine exists_conjoin_of_isTruth fun predicate member => ?_
  rw [boolean predicate member]
  rfl

theorem conjuncts_conjoin {predicates : List Expr} {residual : Option Expr}
    (joined : conjoin predicates = .ok residual) :
    (residual.map conjuncts).getD [] = predicates.flatMap conjuncts := by
  unfold conjoin at joined
  split at joined
  next =>
    cases joined
    rfl
  next predicate =>
    cases joined
    simp
  next =>
    obtain ⟨conjunction, built, rfl⟩ := Outcome.map_eq_ok.1 joined
    obtain ⟨_, rfl⟩ := apply_eq_ok.1 built
    simp [conjuncts_and]

theorem validate_of_conjoin {row : Schema} {predicates : List Expr} {joined : Option Expr}
    (each : ∀ predicate ∈ predicates, predicate.validate row = .ok ()) (conjoined : conjoin predicates = .ok joined) :
    ∀ condition ∈ joined, condition.validate row = .ok () := by
  intro condition member
  have flat : condition.conjuncts = predicates.flatMap conjuncts := by
    have same := conjuncts_conjoin conjoined
    rwa [Option.mem_def.1 member] at same
  have read : condition.refs = predicates.flatMap refs := by
    rw [← refs_conjuncts, flat, List.flatMap_assoc, funext refs_conjuncts]
  refine validate_eq_ok.2 fun ref inside => ?_
  obtain ⟨predicate, listed, inside⟩ := List.mem_flatMap.1 (read ▸ inside)
  exact validate_eq_ok.1 (each predicate listed) ref inside

theorem conjoin_eq_none_iff {predicates : List Expr} {residual : Option Expr}
    (joined : conjoin predicates = .ok residual) : residual = none ↔ predicates = [] := by
  unfold conjoin at joined
  split at joined
  next =>
    cases joined
    simp
  next =>
    cases joined
    simp
  next several _ =>
    obtain ⟨_, _, rfl⟩ := Outcome.map_eq_ok.1 joined
    simpa using several

theorem malformed_of_conjoin {predicates : List Expr} {fault : Error}
    (failed : conjoin predicates = .error fault) : ∃ cause, fault = .malformed cause := by
  unfold conjoin at failed
  split at failed
  next => cases failed
  next => cases failed
  next =>
    obtain ⟨cause, _, same⟩ := apply_eq_error.1 (Outcome.map_eq_error.1 failed)
    exact ⟨cause, same⟩

theorem PredicateOn.of_conjoin {row : Schema} {predicates : List Expr} {joined : Option Expr}
    (each : ∀ predicate ∈ predicates, PredicateOn casts row predicate) (conjoined : conjoin predicates = .ok joined) :
    ∀ condition ∈ joined, PredicateOn casts row condition := by
  -- One predicate is passed on as it came; only from two on is there a call to check.
  unfold conjoin at conjoined
  split at conjoined
  next =>
    cases conjoined
    intro condition member
    cases member
  next predicate =>
    cases conjoined
    intro condition member
    cases member
    exact each predicate (List.mem_singleton_self _)
  next =>
    obtain ⟨conjunction, applied, rfl⟩ := Outcome.map_eq_ok.1 conjoined
    intro condition member
    cases member
    have formed := WellFormed.of_apply applied fun predicate member => (each predicate member).formed
    obtain ⟨_, rfl⟩ := apply_eq_ok.1 applied
    exact ⟨formed, rfl, validate_call.2 fun predicate member => (each predicate member).valid⟩

end LookupJoin.Expr
