import LookupJoin.Proofs.Expr.Reference
/-!
Readings of expressions. A reading says what an expression is worth on a row, and which values are true and
which are the same. References, literals, identity calls, conjunctions and equalities have their usual
meaning, and a cast between interoperable types cannot be noticed by an equality; nothing is said of other
calls. Main statements: an expression holds when its conjuncts do, and an expression that forwards a field
is the same as what that field is the same as.
-/
namespace LookupJoin

universe u

/-- Sameness is symmetric; nothing else is asked of it. -/
structure Reading (Value : Type u) where
  value : List Value → Expr → Value
  constant : Scalar → Value
  truth : Value → Prop
  same : Value → Value → Prop
  same_comm : ∀ {left right}, same left right → same right left
  value_ref : ∀ {row index held} type, row[index]? = some held → value row (.ref index type) = held
  value_lit : ∀ row scalar type, value row (.lit scalar type) = constant scalar
  value_passThrough : ∀ row operand rest type,
    value row (.call .passThrough (operand :: rest) type) = value row operand
  same_cast : ∀ row operand rest target other, operand.type.interoperable target = true →
    (same (value row (.call .cast (operand :: rest) target)) other ↔ same (value row operand) other)
  truth_and : ∀ row operands type,
    truth (value row (.call .and operands type)) ↔ ∀ operand ∈ operands, truth (value row operand)
  truth_eq : ∀ row left right type,
    truth (value row (.call .eq [left, right] type)) ↔ same (value row left) (value row right)

namespace Reading

variable {Value : Type u} (reading : Reading Value)

def Holds (row : List Value) (expr : Expr) : Prop := reading.truth (reading.value row expr)

def SameAt (left : List Value) (index : Nat) (right : List Value) (index' : Nat) : Prop :=
  ∃ held ∈ left[index]?, ∃ held' ∈ right[index']?, reading.same held held'

def calculated (program : Option Calc) (raw : List Value) : List Value :=
  match program with
  | none => raw
  | some program => program.projections.map (reading.value raw)

variable {reading}

theorem same_iff_comm {left right : Value} : reading.same left right ↔ reading.same right left :=
  ⟨reading.same_comm, reading.same_comm⟩

theorem sameAt_comm {left right : List Value} {index index' : Nat} :
    reading.SameAt left index right index' ↔ reading.SameAt right index' left index := by
  constructor
  · rintro ⟨held, present, held', present', equal⟩
    exact ⟨held', present', held, present, reading.same_comm equal⟩
  · rintro ⟨held, present, held', present', equal⟩
    exact ⟨held', present', held, present, reading.same_comm equal⟩

theorem holds_iff_conjuncts (row : List Value) (expr : Expr) :
    reading.Holds row expr ↔ ∀ conjunct ∈ expr.conjuncts, reading.Holds row conjunct := by
  induction expr using Expr.induct with
  | ref index type => simp [Expr.conjuncts]
  | lit value type => simp [Expr.conjuncts]
  | call op operands type ih =>
    by_cases conjunction : op = .and
    · subst conjunction
      rw [Holds, reading.truth_and, Expr.conjuncts_and]
      simp only [List.mem_flatMap]
      constructor
      · rintro all conjunct ⟨operand, member, inside⟩
        exact (ih operand member).1 (all operand member) conjunct inside
      · intro all operand member
        exact (ih operand member).2 fun conjunct inside => all conjunct ⟨operand, member, inside⟩
    · rw [Expr.conjuncts_of_operator_ne conjunction]
      simp

/-- Equality does not notice what stands between a forwarded field and the expression. -/
theorem same_source? {row : List Value} {expr : Expr} {index : Nat} {held other : Value}
    (forwards : expr.source? = some index) (present : row[index]? = some held) :
    reading.same (reading.value row expr) other ↔ reading.same held other := by
  fun_induction Expr.source? expr with
  | case1 position type =>
    cases forwards
    rw [reading.value_ref type present]
  | case2 operand rest type ih =>
    rw [reading.value_passThrough]
    exact ih forwards
  | case3 operand rest target interoperable ih =>
    rw [reading.same_cast row operand rest target other interoperable]
    exact ih forwards
  | case4 => cases forwards
  | case5 => cases forwards

end Reading

end LookupJoin
