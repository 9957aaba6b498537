import LookupJoin.Proofs.Expr.Reference
/-!
Expressions with their references renumbered. Conjuncts and references of the result are those of the
expression, renumbered, and only an expression whose references all keep their numbers stays as it is.
-/
namespace LookupJoin.Expr

mutual

def renumber (move : Nat → Nat) : Expr → Expr
  | .ref index type => .ref (move index) type
  | .lit value type => .lit value type
  | .call op operands type => .call op (renumberAll move operands) type

def renumberAll (move : Nat → Nat) : List Expr → List Expr
  | [] => []
  | operand :: rest => renumber move operand :: renumberAll move rest

end

variable {move : Nat → Nat}

theorem renumberAll_eq (move : Nat → Nat) (operands : List Expr) :
    renumberAll move operands = operands.map (renumber move) := by
  induction operands with
  | nil => rfl
  | cons operand rest ih => simp [renumberAll, ih]

@[simp] theorem renumber_call (move : Nat → Nat) (op : Operator) (operands : List Expr) (type : DataType) :
    renumber move (.call op operands type) = .call op (operands.map (renumber move)) type := by
  rw [renumber, renumberAll_eq]

theorem refs_renumber (move : Nat → Nat) (expr : Expr) :
    (expr.renumber move).refs = expr.refs.map fun ref => (move ref.1, ref.2) := by
  induction expr using induct with
  | ref index type => rfl
  | lit value type => rfl
  | call op operands type ih =>
    rw [renumber_call, refs_call, refs_call, List.flatMap_map, List.map_flatMap]
    exact List.flatMap_congr ih

theorem conjuncts_renumber (move : Nat → Nat) (expr : Expr) :
    (expr.renumber move).conjuncts = expr.conjuncts.map (renumber move) := by
  induction expr using induct with
  | ref index type => rfl
  | lit value type => rfl
  | call op operands type ih =>
    rw [renumber_call]
    by_cases conjunction : op = .and
    · subst conjunction
      rw [conjuncts_and, conjuncts_and, List.flatMap_map, List.map_flatMap]
      exact List.flatMap_congr ih
    · rw [conjuncts_of_operator_ne conjunction, conjuncts_of_operator_ne conjunction]
      simp

theorem map_renumber_eq_self {exprs : List Expr} :
    exprs.map (renumber move) = exprs ↔ ∀ expr ∈ exprs, expr.renumber move = expr := by
  calc
    exprs.map (renumber move) = exprs ↔ exprs.map (renumber move) = exprs.map id := by rw [List.map_id]
    _ ↔ ∀ expr ∈ exprs, expr.renumber move = expr := List.map_inj_left

theorem renumber_eq_self_iff {expr : Expr} : expr.renumber move = expr ↔ ∀ ref ∈ expr.refs, move ref.1 = ref.1 := by
  induction expr using induct with
  | ref index type => simp [renumber, refs]
  | lit value type => simp [renumber, refs]
  | call op operands type ih =>
    rw [renumber_call, refs_call, Expr.call.injEq, map_renumber_eq_self]
    simp only [true_and, and_true, List.mem_flatMap]
    constructor
    · rintro kept ref ⟨operand, member, read⟩
      exact (ih operand member).1 (kept operand member) ref read
    · intro kept operand member
      exact (ih operand member).2 fun ref read => kept ref ⟨operand, member, read⟩

theorem conjuncts_renumber_eq_self_iff {expr : Expr} :
    (expr.renumber move).conjuncts = expr.conjuncts ↔ ∀ ref ∈ expr.refs, move ref.1 = ref.1 := by
  rw [conjuncts_renumber, map_renumber_eq_self, ← refs_conjuncts]
  simp only [renumber_eq_self_iff, List.mem_flatMap]
  constructor
  · rintro kept ref ⟨conjunct, member, read⟩
    exact kept conjunct member ref read
  · intro kept conjunct member ref read
    exact kept ref ⟨conjunct, member, read⟩

end LookupJoin.Expr
