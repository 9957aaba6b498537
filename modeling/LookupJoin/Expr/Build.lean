import LookupJoin.DataType.Interoperable
import LookupJoin.Error
/-!
Building expressions with checks: a reference takes its type from the row, a call is accepted only with
operands its operator admits, a cast only where one exists. Which casts exist is for the library to say that
carries them out. `validate` checks the references of a finished expression against a row.
-/
namespace LookupJoin

namespace DataType

def isTruth : DataType → Bool
  | .flat .boolean | .flat .null => true
  | _ => false

end DataType

namespace Expr

def column (schema : Schema) (index : Nat) : Except Error Expr :=
  match schema[index]? with
  | some field => .ok (.ref index field.type)
  | none => .error (.indexOutOfRange .inputReference index schema.length)

def literal (value : Scalar) : Expr := .lit value value.type

def comparisonFault? (op : Operator) : List Expr → Option Malformed
  | [left, right] =>
    if left.type.comparable right.type then none else some (.incomparable left.type right.type op)
  | operands => some (.wrongArity op 2 operands.length)

def operandFault? (op : Operator) (operands : List Expr) : Option Malformed :=
  (operands.find? fun operand => !operand.type.isTruth).map fun operand =>
    .operandNotBoolean op operand.type

def connectiveFault? (op : Operator) (operands : List Expr) : Option Malformed :=
  if operands.length < 2 then some (.tooFewOperands op operands.length) else operandFault? op operands

def arityFault? (op : Operator) (expected : Nat) (operands : List Expr) : Option Malformed :=
  if operands.length = expected then none else some (.wrongArity op expected operands.length)

def likeFault? (operands : List Expr) : Option Malformed :=
  (arityFault? .like 2 operands).or <|
    if operands.all fun operand => operand.type.isText || operand.type.isNull then none
    else some .likeNeedsTexts

def callFault? (op : Operator) (operands : List Expr) : Option Malformed :=
  match op with
  | .eq | .notEq | .lt | .ltEq | .gt | .gtEq => comparisonFault? op operands
  | .and | .or => connectiveFault? op operands
  | .not => (arityFault? op 1 operands).or (operandFault? op operands)
  | .like => likeFault? operands
  | .passThrough => arityFault? op 1 operands
  | .cast | .function _ => some (.needsType op)

def callType : Operator → List Expr → DataType
  | .passThrough, operand :: _ => operand.type
  | _, _ => .boolean

def apply (op : Operator) (operands : List Expr) : Except Error Expr :=
  match callFault? op operands with
  | some fault => .error (.malformed fault)
  | none => .ok (.call op operands (callType op operands))

def castTo (casts : CastRule) (operand : Expr) (target : DataType) : Except Error Expr :=
  if casts operand.type target then .ok (.call .cast [operand] target)
  else .error (.malformed (.uncastable operand.type target))

def passThrough (operand : Expr) : Expr := .call .passThrough [operand] operand.type

def function (name : String) (operands : List Expr) (type : DataType) : Expr :=
  .call (.function name) operands type

def equals (left right : Expr) : Except Error Expr := apply .eq [left, right]

def like (text pattern : Expr) : Except Error Expr := apply .like [text, pattern]

def checkRef (schema : Schema) (ref : Nat × DataType) : Except Error Unit :=
  match schema[ref.1]? with
  | none => .error (.indexOutOfRange .inputReference ref.1 schema.length)
  | some field =>
    if field.type = ref.2 then .ok ()
    else .error (.malformed (.mistyped ref.1 ref.2 field.name field.type))

def validate (schema : Schema) (expr : Expr) : Except Error Unit := expr.refs.forM (checkRef schema)

/-- A predicate over a row reads fields of that row and is boolean; the null type is not enough. -/
def validatePredicate (schema : Schema) (fault : DataType → Malformed) (expr : Expr) : Except Error Unit := do
  expr.validate schema
  if expr.type = .boolean then .ok () else .error (.malformed (fault expr.type))

end Expr

end LookupJoin
