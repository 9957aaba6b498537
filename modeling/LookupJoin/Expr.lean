import LookupJoin.Scalar
/-!
Typed scalar expressions over a row: references to its fields, literals, and calls of an operator.
Every node carries its type. An expression may be put together by hand, so a type or an operand count
that no constructor would give is possible; the functions here take such expressions as they are.
-/
namespace LookupJoin

inductive Operator where
  | eq | notEq | lt | ltEq | gt | gtEq
  | and | or | not
  | like
  | cast
  | passThrough
  | function (name : String)
deriving DecidableEq, Repr

namespace Operator

def symbol : Operator → String
  | .eq => "="
  | .notEq => "<>"
  | .lt => "<"
  | .ltEq => "<="
  | .gt => ">"
  | .gtEq => ">="
  | .and => "AND"
  | .or => "OR"
  | .not => "NOT"
  | .like => "LIKE"
  | .cast => "CAST"
  | .passThrough => "IDENTITY"
  | .function name => name

end Operator

inductive Expr where
  | ref (index : Nat) (type : DataType)
  | lit (value : Scalar) (type : DataType)
  | call (op : Operator) (operands : List Expr) (type : DataType)

namespace Expr

instance : Inhabited Expr := ⟨.lit .null .null⟩

def type : Expr → DataType
  | .ref _ type | .lit _ type | .call _ _ type => type

def index? : Expr → Option Nat
  | .ref index _ => some index
  | _ => none

def operator? : Expr → Option Operator
  | .call op _ _ => some op
  | _ => none

def operands : Expr → List Expr
  | .call _ operands _ => operands
  | _ => []

mutual

/-- The references of an expression from left to right, each with the type it claims. -/
def refs : Expr → List (Nat × DataType)
  | .ref index type => [(index, type)]
  | .lit _ _ => []
  | .call _ operands _ => refsAll operands

def refsAll : List Expr → List (Nat × DataType)
  | [] => []
  | operand :: rest => refs operand ++ refsAll rest

end

mutual

/-- Whether the value may be null over rows of the schema. A function may return null at any time, a
reference beyond the row as well. -/
def nullable (schema : Schema) : Expr → Bool
  | .ref index _ => (schema[index]?.map FieldOf.nullable).getD true
  | .lit value _ => value.isNull
  | .call (.function _) _ _ => true
  | .call _ operands _ => anyNullable schema operands

def anyNullable (schema : Schema) : List Expr → Bool
  | [] => false
  | operand :: rest => nullable schema operand || anyNullable schema rest

end

mutual

def same : Expr → Expr → Bool
  | .ref i s, .ref j t => i = j && s = t
  | .lit v s, .lit w t => v.same w && s = t
  | .call op operands s, .call op' operands' t => op = op' && sameAll operands operands' && s = t
  | _, _ => false

def sameAll : List Expr → List Expr → Bool
  | [], [] => true
  | x :: xs, y :: ys => same x y && sameAll xs ys
  | _, _ => false

end

/-- What holds of references and literals, and of a call when it holds of its operands, holds of every
expression. -/
theorem induct {motive : Expr → Prop} (ref : ∀ index type, motive (.ref index type))
    (lit : ∀ value type, motive (.lit value type))
    (call : ∀ op operands type, (∀ operand ∈ operands, motive operand) → motive (.call op operands type)) :
    ∀ expr, motive expr
  | .ref index type => ref index type
  | .lit value type => lit value type
  | .call op operands type => call op operands type fun operand _ => induct ref lit call operand

theorem refsAll_eq (operands : List Expr) : refsAll operands = operands.flatMap refs := by
  induction operands with
  | nil => rfl
  | cons operand rest ih => simp [refsAll, ih]

theorem anyNullable_eq (schema : Schema) (operands : List Expr) :
    anyNullable schema operands = operands.any (nullable schema) := by
  induction operands with
  | nil => rfl
  | cons operand rest ih => simp [anyNullable, ih]

end Expr

end LookupJoin
