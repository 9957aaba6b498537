import LookupJoin.Expr.Text
import LookupJoin.Json.Printer
import LookupJoin.Plan
/-!
Plans explained: as a record, as named terms in a fixed order, as one line of text and as data. References
show as field names, of the raw table row in the filter and the columns of a calculation and of the joined
row in the condition left over.
-/
namespace LookupJoin

namespace Retry

def toValue (retry : Retry) : Value :=
  .table [("strategy", .text "fixed_delay"), ("delayMs", .int retry.delayMs),
    ("maxAttempts", .int retry.maxAttempts)]

end Retry

namespace AsyncOptions

def toValue (options : AsyncOptions) : Value :=
  .table [("enabled", .bool options.enabled), ("capacity", .int options.capacity),
    ("timeoutMs", .int options.timeoutMs), ("ordering", .text options.ordering.word)]

end AsyncOptions

structure Explanation where
  table : String
  joinType : String
  lookup : List String
  filter : Option String
  projection : Option (List String)
  joinCondition : Option String
  select : List String
  async : AsyncOptions
  retry : Option Retry

namespace Explanation

def keyText (raw driving : Schema) (entry : Nat × LookupKey) : String :=
  raw.nameAt entry.1 ++ "=" ++
    match entry.2 with
    | .constant _ value => value.sql
    | .field source => driving.nameAt source

/-- A column of a calculation; the name shows where it differs from the text. -/
def columnText (raw : Schema) (column : Expr × String) : String :=
  let shown := column.1.display raw
  if shown = column.2 then shown else shown ++ " AS " ++ column.2

def ofPlan (plan : JoinPlan) : Explanation where
  table := plan.table.name
  joinType := plan.input.joinType.text
  lookup := plan.keys.entries.map (keyText plan.table.schema plan.input.driving)
  filter := plan.input.program.bind fun program => program.filter.map (Expr.display program.input)
  projection := plan.input.program.map fun program => program.columns.map (columnText program.input)
  joinCondition := plan.residual.map (Expr.display plan.row)
  select := plan.row.map FieldOf.name
  async := plan.asyncOptions
  retry := plan.retry?

def commas (items : List String) : String := ", ".intercalate items

def optionalTerm (name : String) (value : Option String) : List (String × String) :=
  (value.map fun text => (name, text)).toList

def terms (explanation : Explanation) : List (String × String) :=
  [("table", explanation.table), ("joinType", explanation.joinType), ("lookup", commas explanation.lookup)] ++
    optionalTerm "where" explanation.filter ++
    optionalTerm "projection" (explanation.projection.map commas) ++
    [("joinCondition", explanation.joinCondition.getD "N/A"), ("select", commas explanation.select),
      ("async", explanation.async.text)] ++
    optionalTerm "retry" (explanation.retry.map Retry.text)

def text (explanation : Explanation) : String :=
  "LookupJoin(" ++ commas (explanation.terms.map fun (name, value) => name ++ "=[" ++ value ++ "]") ++ ")"

def texts (items : List String) : Value := .list (items.map Value.text)

def optionalEntry (key : String) (value : Option Value) : Value.Entries :=
  (value.map fun value => (key, value)).toList

def toValue (explanation : Explanation) : Value :=
  .table <|
    [("table", .text explanation.table), ("joinType", .text explanation.joinType),
      ("lookup", texts explanation.lookup)] ++
    optionalEntry "where" (explanation.filter.map Value.text) ++
    optionalEntry "projection" (explanation.projection.map texts) ++
    [("joinCondition", (explanation.joinCondition.map Value.text).getD .null),
      ("select", texts explanation.select), ("async", explanation.async.toValue)] ++
    optionalEntry "retry" (explanation.retry.map Retry.toValue)

end Explanation

end LookupJoin
