import LookupJoin.Expr
import LookupJoin.DataType.Text
import LookupJoin.Scalar.Text
/-!
Expressions as text. References show as names; without a row, or beyond its end, as their index after a
dollar sign. Casts, negations, identity calls and functions are written as calls, every other operator
between its operands.
-/
namespace LookupJoin

def positionName (index : Nat) : String := "$" ++ Text.decimal index

def Schema.nameAt (schema : Schema) (index : Nat) : String :=
  (schema[index]?.map FieldOf.name).getD (positionName index)

namespace Expr

def callText (op : Operator) (operands : List String) : String :=
  op.symbol ++ "(" ++ ", ".intercalate operands ++ ")"

def infixText (op : Operator) (operands : List String) : String :=
  "(" ++ (" " ++ op.symbol ++ " ").intercalate operands ++ ")"

/-- The text of a call from the texts of its operands. A cast names its target only when it has exactly
one operand. -/
def applicationText (op : Operator) (operands : List String) (type : DataType) : String :=
  match op, operands with
  | .cast, [operand] => "CAST(" ++ operand ++ " AS " ++ type.name ++ ")"
  | .cast, _ | .not, _ | .passThrough, _ | .function _, _ => callText op operands
  | _, _ => infixText op operands

mutual

def render (name : Nat → String) : Expr → String
  | .ref index _ => name index
  | .lit value _ => value.sql
  | .call op operands type => applicationText op (renderAll name operands) type

def renderAll (name : Nat → String) : List Expr → List String
  | [] => []
  | operand :: rest => operand.render name :: renderAll name rest

end

def display (schema : Schema) (expr : Expr) : String := expr.render (Schema.nameAt schema)

def text (expr : Expr) : String := expr.render positionName

end Expr

end LookupJoin
