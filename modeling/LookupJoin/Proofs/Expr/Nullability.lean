import LookupJoin.Proofs.Expr.WellFormed
/-!
Null and where it is declared. An evaluation says what expressions are worth on a row and which values are null;
of calls it is only asked that none but a function makes null out of values that are not. A row conforms to a
schema when it has a null only where the schema allows one. Main statements: an expression that is not nullable
is not null on any conforming row; and the declaration is exact, for what is nullable is null in some evaluation
on some conforming row.
-/
namespace LookupJoin

universe u

structure Evaluation (Value : Type u) where
  value : List Value → Expr → Value
  constant : Scalar → Value
  null : Value → Prop
  null_constant : ∀ scalar, null (constant scalar) ↔ scalar.isNull = true
  value_ref : ∀ {row index held} type, row[index]? = some held → value row (.ref index type) = held
  value_lit : ∀ row scalar type, value row (.lit scalar type) = constant scalar
  call_not_null : ∀ row op operands type, (∀ name, op ≠ .function name) →
    (∀ operand ∈ operands, ¬null (value row operand)) → ¬null (value row (.call op operands type))

theorem Expr.nullable_call {schema : Schema} {op : Operator} {operands : List Expr} {type : DataType}
    (strict : ∀ name, op ≠ .function name) :
    nullable schema (.call op operands type) = operands.any (nullable schema) := by
  cases op with
  | function name => exact absurd rfl (strict name)
  | _ => rw [nullable, anyNullable_eq]; simp

namespace Evaluation

variable {Value : Type u}

/-- A value for each field, and no null but where the field is nullable. -/
def Conforms (evaluation : Evaluation Value) (schema : Schema) (row : List Value) : Prop :=
  List.Forall₂ (fun field held => evaluation.null held → field.nullable = true) schema row

variable {evaluation : Evaluation Value} {schema : Schema} {row : List Value}

theorem Conforms.held {index : Nat} {field : Field} (conforms : evaluation.Conforms schema row)
    (found : schema[index]? = some field) :
    ∃ held, row[index]? = some held ∧ (evaluation.null held → field.nullable = true) := by
  obtain ⟨inside, rfl⟩ := List.getElem?_eq_some_iff.1 found
  obtain ⟨width, fits⟩ := List.forall₂_iff_get.1 conforms
  have inside' : index < row.length := width ▸ inside
  exact ⟨row[index], List.getElem?_eq_getElem inside', fits index inside inside'⟩

theorem nullable_of_null {expr : Expr} (conforms : evaluation.Conforms schema row)
    (valid : expr.validate schema = .ok ()) (null : evaluation.null (evaluation.value row expr)) :
    expr.nullable schema = true := by
  induction expr using Expr.induct with
  | ref index type =>
    obtain ⟨field, found, _⟩ := Expr.validate_eq_ok.1 valid (index, type) (List.mem_singleton_self _)
    obtain ⟨held, present, allowed⟩ := conforms.held found
    rw [evaluation.value_ref type present] at null
    simpa [Expr.nullable, found] using allowed null
  | lit scalar type =>
    rw [evaluation.value_lit, evaluation.null_constant] at null
    exact null
  | call op operands type ih =>
    by_cases strict : ∀ name, op ≠ .function name
    · rw [Expr.nullable_call strict, List.any_eq_true]
      -- With no nullable operand there is no null one, and the call could not be null.
      by_contra none
      refine evaluation.call_not_null row op operands type strict (fun operand member null => ?_) null
      exact none ⟨operand, member, ih operand member (Expr.validate_call.1 valid operand member) null⟩
    · obtain ⟨name, function⟩ := not_forall.1 strict
      obtain rfl := not_not.1 function
      rfl

def fieldOf (row : Schema) : Expr → Field
  | .ref index type => row[index]?.getD ⟨"", type, true, []⟩
  | .lit scalar _ => ⟨"", scalar.type, scalar.isNull, []⟩
  | .call op operands type => ⟨"", type, Expr.nullable row (.call op operands type), []⟩

theorem nullable_fieldOf (row : Schema) (expr : Expr) : (fieldOf row expr).nullable = expr.nullable row := by
  cases expr with
  | ref index type => cases found : row[index]? <;> simp [fieldOf, Expr.nullable, found]
  | lit scalar type => rfl
  | call op operands type => rfl

/-- Fields as values, the nullable ones as nulls: whatever may be null is. -/
def pessimistic : Evaluation Field where
  value := fieldOf
  constant scalar := ⟨"", scalar.type, scalar.isNull, []⟩
  null field := field.nullable = true
  null_constant _ := Iff.rfl
  value_ref _ present := by simp [fieldOf, present]
  value_lit _ _ _ := rfl
  call_not_null row op operands type strict filled := by
    simp only [nullable_fieldOf] at filled ⊢
    rw [Expr.nullable_call strict, List.any_eq_true]
    intro nullable
    obtain ⟨operand, member, null⟩ := nullable
    exact filled operand member null

theorem conforms_pessimistic (schema : Schema) : pessimistic.Conforms schema schema :=
  List.forall₂_same.2 fun _ _ null => null

end Evaluation

/-- Nothing is declared nullable that could not be null. -/
theorem Expr.nullable_iff_null_somewhere {schema : Schema} {expr : Expr}
    (valid : expr.validate schema = .ok ()) :
    expr.nullable schema = true ↔
      ∃ (evaluation : Evaluation Field) (row : List Field),
        evaluation.Conforms schema row ∧ evaluation.null (evaluation.value row expr) := by
  constructor
  · intro nullable
    refine ⟨Evaluation.pessimistic, schema, Evaluation.conforms_pessimistic schema, ?_⟩
    exact (Evaluation.nullable_fieldOf schema expr).trans nullable
  · intro somewhere
    obtain ⟨evaluation, row, conforms, null⟩ := somewhere
    exact Evaluation.nullable_of_null conforms valid null

end LookupJoin
