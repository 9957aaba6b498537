import LookupJoin.Proofs.DataType.Widening
import LookupJoin.Proofs.Expr.WellFormed
/-!
Expressions made by the checked constructors alone. An identity call made so has the type of its operand and a
literal that of its value, which one put together by hand need not have. Main statements: such an expression is well
formed, and its conjuncts are made in the same way; and where identity calls carry their operand's type, the field
a valid expression forwards is of a type interoperable with that of the expression.
-/
namespace LookupJoin.Expr

inductive Constructed (casts : CastRule) : Expr → Prop
  | column {row : Schema} {index : Nat} {expr : Expr} (made : Expr.column row index = .ok expr) :
      Constructed casts expr
  | literal (value : Scalar) : Constructed casts (literal value)
  | apply {op : Operator} {operands : List Expr} {expr : Expr}
      (parts : ∀ operand ∈ operands, Constructed casts operand) (made : Expr.apply op operands = .ok expr) :
      Constructed casts expr
  | castTo {operand expr : Expr} {target : DataType} (part : Constructed casts operand)
      (made : operand.castTo casts target = .ok expr) : Constructed casts expr
  | passThrough {operand : Expr} (part : Constructed casts operand) : Constructed casts operand.passThrough
  | function (name : String) {operands : List Expr} (type : DataType)
      (parts : ∀ operand ∈ operands, Constructed casts operand) : Constructed casts (function name operands type)

variable {casts : CastRule}

/-- Down to the field, each identity call has the type of its operand. -/
def Faithful : Expr → Prop
  | .call .passThrough (operand :: _) type => type = operand.type ∧ operand.Faithful
  | .call .cast (operand :: _) _ => operand.Faithful
  | _ => True

theorem castTo_eq_ok {operand expr : Expr} {target : DataType} :
    operand.castTo casts target = .ok expr ↔
      casts operand.type target = true ∧ expr = .call .cast [operand] target := by
  unfold castTo
  split
  next castable => simp [castable, eq_comm]
  next uncastable => simp [uncastable]

theorem arityFault?_eq_none {op : Operator} {expected : Nat} {operands : List Expr} :
    arityFault? op expected operands = none ↔ operands.length = expected := by
  unfold arityFault?
  split
  next same => simp [same]
  next different => simp [different]

theorem Constructed.faithful {expr : Expr} (constructed : expr.Constructed casts) : expr.Faithful := by
  induction constructed with
  | column made =>
    obtain ⟨_, rfl⟩ := column_eq_ok.1 made
    trivial
  | literal value => trivial
  | @apply op operands expr _ made ih =>
    obtain ⟨sound, rfl⟩ := apply_eq_ok.1 made
    cases op with
    | passThrough =>
      obtain ⟨operand, rfl⟩ := List.length_eq_one_iff.1 (arityFault?_eq_none.1 sound)
      exact ⟨rfl, ih operand (List.mem_singleton_self _)⟩
    | cast => cases sound
    | _ => trivial
  | castTo _ made ih =>
    obtain ⟨_, rfl⟩ := castTo_eq_ok.1 made
    exact ih
  | passThrough _ ih => exact ⟨rfl, ih⟩
  | function name type _ _ => trivial

theorem Constructed.wellFormed {expr : Expr} (constructed : expr.Constructed casts) : expr.WellFormed casts := by
  induction constructed with
  | column made =>
    obtain ⟨_, rfl⟩ := column_eq_ok.1 made
    exact .ref _ _
  | literal value => exact .lit _ _
  | apply _ made ih => exact .of_apply made ih
  | castTo _ made ih =>
    obtain ⟨castable, rfl⟩ := castTo_eq_ok.1 made
    exact .call ⟨_, rfl, castable⟩ (List.forall_mem_singleton.2 ih)
  | passThrough _ ih => exact .call rfl (List.forall_mem_singleton.2 ih)
  | function name type _ ih => exact .call trivial ih

theorem Constructed.comparable {left right : Expr} {type : DataType}
    (constructed : (Expr.call .eq [left, right] type).Constructed casts) : left.type.comparable right.type = true := by
  cases constructed.wellFormed with
  | call taken _ => exact comparisonFault?_pair.1 taken

/-- What a constructed expression shows of its making: a literal has the type of its value, and the operands of a
call are constructed. -/
def Founded (casts : CastRule) : Expr → Prop
  | .ref _ _ => True
  | .lit value type => type = value.type
  | .call _ operands _ => ∀ operand ∈ operands, operand.Constructed casts

theorem Constructed.founded {expr : Expr} (constructed : expr.Constructed casts) : expr.Founded casts := by
  cases constructed with
  | column made =>
    obtain ⟨_, rfl⟩ := column_eq_ok.1 made
    trivial
  | literal value => rfl
  | apply parts made =>
    obtain ⟨_, rfl⟩ := apply_eq_ok.1 made
    exact parts
  | castTo part made =>
    obtain ⟨_, rfl⟩ := castTo_eq_ok.1 made
    exact List.forall_mem_singleton.2 part
  | passThrough part => exact List.forall_mem_singleton.2 part
  | function name type parts => exact parts

theorem Constructed.conjunct {expr : Expr} (constructed : expr.Constructed casts) :
    ∀ conjunct ∈ expr.conjuncts, conjunct.Constructed casts := by
  induction expr using Expr.induct with
  | ref index type => simpa [conjuncts] using constructed
  | lit value type => simpa [conjuncts] using constructed
  | call op operands type ih =>
    intro conjunct member
    by_cases conjunction : op = .and
    · subst conjunction
      rw [conjuncts_and, List.mem_flatMap] at member
      obtain ⟨operand, listed, inside⟩ := member
      exact ih operand listed (constructed.founded operand listed) conjunct inside
    · rw [conjuncts_of_operator_ne conjunction, List.mem_singleton] at member
      exact member ▸ constructed

theorem interoperable_of_source? {row : Schema} {expr : Expr} {index : Nat} (valid : expr.validate row = .ok ())
    (faithful : expr.Faithful) (forwards : expr.source? = some index) :
    index < row.length ∧ DataType.Interoperable (row.typeAt index) expr.type := by
  fun_induction source? expr with
  | case1 other type =>
    cases forwards
    obtain ⟨field, found, typed⟩ := validate_eq_ok.1 valid (index, type) (List.mem_singleton_self _)
    have inside : index < row.length := (List.getElem?_eq_some_iff.1 found).1
    have same : row.typeAt index = type := by
      rw [Schema.typeAt, found]
      exact typed
    exact ⟨inside, same ▸ .same _⟩
  | case2 operand rest type ih =>
    have valid' : operand.validate row = .ok () := validate_call.1 valid operand List.mem_cons_self
    obtain ⟨same, faithful'⟩ := faithful
    obtain ⟨inside, steps⟩ := ih valid' faithful' forwards
    exact ⟨inside, same ▸ steps⟩
  | case3 operand rest target interoperable ih =>
    have valid' : operand.validate row = .ok () := validate_call.1 valid operand List.mem_cons_self
    -- The cast widens once more what the operand has shown of the field.
    obtain ⟨inside, steps⟩ := ih valid' faithful forwards
    exact ⟨inside, steps.trans (DataType.interoperable_iff.1 interoperable)⟩
  | case4 => cases forwards
  | case5 => cases forwards

end LookupJoin.Expr
