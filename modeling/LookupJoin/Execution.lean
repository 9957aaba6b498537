import LookupJoin.DataType.Interoperable
import LookupJoin.Plan
/-!
Plans made ready for execution. There must be a key to look up by, and a driving field that feeds a key must
have a type the column can be compared with as it is. In batch mode the hint, updates of the input and the
primary key have no part.
-/
namespace LookupJoin

inductive ExecutionMode where
  | batch | streaming
deriving DecidableEq, Repr

structure Execution where
  table : String
  joinType : JoinType
  keys : LookupKeys
  projection : Option (List Expr)
  filter : Option Expr
  residual : Option Expr
  row : Schema
  async : AsyncOptions
  retry : Option Retry
  coversPrimaryKey : Bool
  upsert : Bool

namespace JoinPlan

def compatible (left right : DataType) : Bool := left.interoperable right || right.interoperable left

def checkKey (plan : JoinPlan) (entry : Nat × LookupKey) : Except Error Unit :=
  match entry.2 with
  | .constant _ _ => .ok ()
  | .field source =>
    match plan.table.schema[entry.1]?, plan.input.driving[source]? with
    | some column, some field =>
      if compatible field.type column.type then .ok ()
      else .error (.keyTypes column.name plan.table.name column.type field.name field.type)
    | none, _ => .error (.indexOutOfRange .joinKeyTarget entry.1 plan.table.schema.length)
    | _, none => .error (.indexOutOfRange .joinKeySource source plan.input.driving.length)

def checkKeys (plan : JoinPlan) : Except Error Unit :=
  if plan.keys.entries.isEmpty then .error (.noLookupKey plan.table.name)
  else plan.keys.entries.forM plan.checkKey

def batchOptions (plan : JoinPlan) : AsyncOptions :=
  .resolve none plan.input.settings.asyncLookup plan.table.capability true

def executionWith (plan : JoinPlan) (async : AsyncOptions) (retry : Option Retry)
    (coversPrimaryKey upsert : Bool) : Execution where
  table := plan.table.name
  joinType := plan.input.joinType
  keys := plan.keys
  projection := plan.input.program.map Calc.projections
  filter := plan.input.program.bind Calc.filter
  residual := plan.residual
  row := plan.row
  async := async
  retry := retry
  coversPrimaryKey := coversPrimaryKey
  upsert := upsert

def execution (plan : JoinPlan) (mode : ExecutionMode) : Except Error Execution := do
  plan.checkKeys
  match mode with
  | .batch => return plan.executionWith plan.batchOptions none false false
  | .streaming =>
    let covered ← plan.coversPrimaryKey
    return plan.executionWith plan.asyncOptions plan.retry? covered
      (PrimaryKey.upsertRequired plan.input.insertOnly covered)

end JoinPlan

end LookupJoin
