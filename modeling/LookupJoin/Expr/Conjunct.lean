import LookupJoin.Expr.Build
/-!
Conjunctions taken apart and put together. Nested conjunctions flatten into one list of conjuncts;
a disjunction is a single conjunct.
-/
namespace LookupJoin.Expr

mutual

def conjuncts : Expr → List Expr
  | .call .and operands _ => conjunctsAll operands
  | expr => [expr]

def conjunctsAll : List Expr → List Expr
  | [] => []
  | operand :: rest => conjuncts operand ++ conjunctsAll rest

end

def conjoin : List Expr → Except Error (Option Expr)
  | [] => .ok none
  | [predicate] => .ok (some predicate)
  | predicates => (apply .and predicates).map some

theorem conjunctsAll_eq (operands : List Expr) : conjunctsAll operands = operands.flatMap conjuncts := by
  induction operands with
  | nil => rfl
  | cons operand rest ih => simp [conjunctsAll, ih]

theorem conjuncts_and (operands : List Expr) (type : DataType) :
    conjuncts (.call .and operands type) = operands.flatMap conjuncts := by
  simp [conjuncts, conjunctsAll_eq]

end LookupJoin.Expr
