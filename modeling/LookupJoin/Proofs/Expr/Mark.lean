import LookupJoin.Proofs.Expr.Reading
/-!
A reading that tells forwarded fields from all else. Its values are four marks: the truth values, one mark
that differs from them, and a blank that is the same as any. An expression that forwards no field is worth
a truth value, whatever the row.
-/
namespace LookupJoin

inductive Mark where
  | blank | sought | yes | no
deriving DecidableEq, Repr

namespace Mark

def isTruth : Mark → Bool
  | .yes | .no => true
  | .blank | .sought => false

def ofBool : Bool → Mark
  | true => .yes
  | false => .no

/-- Only the mark sought differs, and only from truth values. -/
def same (left right : Mark) : Bool := !(left = .sought && right.isTruth) && !(right = .sought && left.isTruth)

def call (op : Operator) (operands : List Expr) (type : DataType) (marks : List Mark) : Mark :=
  match op, operands, marks with
  | .passThrough, _, held :: _ => held
  | .cast, operand :: _, held :: _ => if operand.type.interoperable type then held else .yes
  | .and, _, marks => ofBool (marks.all (· = .yes))
  | .eq, _, [left, right] => ofBool (left.same right)
  | _, _, _ => .yes

mutual

def value (row : List Mark) : Expr → Mark
  | .ref index _ => row[index]?.getD .blank
  | .lit _ _ => .yes
  | .call op operands type => call op operands type (values row operands)

def values (row : List Mark) : List Expr → List Mark
  | [] => []
  | operand :: rest => value row operand :: values row rest

end

theorem values_eq (row : List Mark) (operands : List Expr) : values row operands = operands.map (value row) := by
  induction operands with
  | nil => rfl
  | cons operand rest ih => simp [values, ih]

@[simp] theorem ofBool_eq_yes {truth : Bool} : ofBool truth = .yes ↔ truth = true := by
  cases truth <;> simp [ofBool]

@[simp] theorem isTruth_ofBool (truth : Bool) : (ofBool truth).isTruth = true := by
  cases truth <;> rfl

theorem same_comm (left right : Mark) : left.same right = right.same left := Bool.and_comm _ _

def reading : Reading Mark where
  value := value
  constant _ := .yes
  truth mark := mark = .yes
  same left right := left.same right = true
  same_comm equal := (same_comm _ _).trans equal
  value_ref type present := by simp [value, present]
  value_lit _ _ _ := rfl
  value_passThrough _ _ _ _ := rfl
  same_cast row operand rest target other interoperable := by simp [value, values, call, interoperable]
  truth_and row operands type := by simp [value, values_eq, call]
  truth_eq row left right type := by simp [value, values, call]

theorem isTruth_value {row : List Mark} {expr : Expr} (forwards : expr.source? = none) :
    (value row expr).isTruth = true := by
  fun_induction Expr.source? expr with
  | case1 index type => cases forwards
  | case2 operand rest type ih => exact ih forwards
  | case3 operand rest target interoperable ih =>
    have kept : value row (.call .cast (operand :: rest) target) = value row operand := by
      simp [value, values, call, interoperable]
    rw [kept]
    exact ih forwards
  | case4 operand rest target lossy => simp [value, values, call, lossy, isTruth]
  | case5 expr noRef noIdentity noCast =>
    cases expr with
    | ref index type => exact absurd rfl (noRef index type)
    | lit scalar type => rfl
    | call op operands type =>
      rw [value, values_eq]
      unfold call
      split
      next held rest marked =>
        obtain ⟨operand, others, rfl, _⟩ := List.map_eq_cons_iff.1 marked
        exact absurd rfl (noIdentity operand others type)
      next operand others held rest marked => exact absurd rfl (noCast operand others type)
      next => exact isTruth_ofBool _
      next => exact isTruth_ofBool _
      next => rfl

end Mark

end LookupJoin
