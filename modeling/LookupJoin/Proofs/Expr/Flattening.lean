import LookupJoin.Proofs.Expr.Reference
/-!
Nested conjunctions laid out flat. An expression that is no conjunction stands for itself, and a conjunction for
what its operands stand for, one after the other. Main statement: each expression flattens to one list, that of
its conjuncts.
-/
namespace LookupJoin.Expr

inductive Flattens : Expr → List Expr → Prop
  | single {expr : Expr} (other : expr.operator? ≠ some .and) : Flattens expr [expr]
  | and {operands : List Expr} {parts : List (List Expr)} (type : DataType)
      (flattened : List.Forall₂ Flattens operands parts) : Flattens (.call .and operands type) parts.flatten

theorem flattens_conjuncts (expr : Expr) : expr.Flattens expr.conjuncts := by
  induction expr using induct with
  | ref index type => exact .single (by simp [operator?])
  | lit value type => exact .single (by simp [operator?])
  | call op operands type ih =>
    by_cases conjunction : op = .and
    · subst conjunction
      have each : List.Forall₂ Flattens operands (operands.map conjuncts) := by
        rw [List.forall₂_map_right_iff, List.forall₂_same]
        exact ih
      rw [conjuncts_and, List.flatMap_def]
      exact .and type each
    · rw [conjuncts_of_operator_ne conjunction]
      exact .single (by simpa [operator?] using conjunction)

theorem eq_conjuncts_of_flattens {expr : Expr} {parts : List Expr} (flattened : expr.Flattens parts) :
    parts = expr.conjuncts := by
  induction expr using induct generalizing parts with
  | ref index type =>
    cases flattened
    rfl
  | lit value type =>
    cases flattened
    rfl
  | call op operands type ih =>
    cases flattened with
    | single other =>
      have different : op ≠ .and := fun same => other (congrArg some same)
      rw [conjuncts_of_operator_ne different]
    | @and _ parts _ flattened =>
      -- The parts belong to the operands one by one; the induction is on this pairing.
      have each : parts = operands.map conjuncts := by
        induction flattened with
        | nil => rfl
        | @cons operand part _ _ head _ ih' =>
          obtain ⟨first, others⟩ := List.forall_mem_cons.1 ih
          rw [List.map_cons, first head, ih' others]
      rw [each, conjuncts_and, List.flatMap_def]

theorem flattens_iff {expr : Expr} {parts : List Expr} : expr.Flattens parts ↔ parts = expr.conjuncts := by
  constructor
  · exact eq_conjuncts_of_flattens
  · intro same
    exact same ▸ flattens_conjuncts expr

end LookupJoin.Expr
