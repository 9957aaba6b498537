import LookupJoin.DataType.Text
import LookupJoin.Expr
/-!
What can go wrong, as causes. Only structural problems are errors: a predicate that cannot become a
lookup key is none, it stays in the residual condition. `Error.message` is the wording of each cause.
With `Error.overflow` nothing is returned: the program stops at a sum that is no machine word.
-/
namespace LookupJoin

inductive Malformed where
  | incomparable (left right : DataType) (op : Operator)
  | wrongArity (op : Operator) (expected found : Nat)
  | tooFewOperands (op : Operator) (found : Nat)
  | operandNotBoolean (op : Operator) (found : DataType)
  | likeNeedsTexts
  | needsType (op : Operator)
  | uncastable (source target : DataType)
  | mistyped (index : Nat) (claimed : DataType) (field : String) (actual : DataType)
  | filterNotBoolean (found : DataType)
  | conditionNotBoolean (found : DataType)

inductive HintFault where
  | unknownOption (name : String)
  | async (text : String)
  | outputMode (text : String)
  | capacity (text : String)
  | duration (text : String)
  | partialRetry
  | retryPredicate (text : String)
  | retryStrategy (text : String)
  | maxAttempts (text : String)
  | otherTable (hinted joined : String)
deriving DecidableEq, Repr

inductive IndexRole where
  | inputReference | joinKeySource | joinKeyTarget
deriving DecidableEq, Repr

inductive Error where
  | noLookupKey (table : String)
  | keyTypes (column table : String) (columnType : DataType) (field : String) (fieldType : DataType)
  | calcInput (table : String)
  | unsupportedShape (found : String)
  | indexOutOfRange (role : IndexRole) (index len : Nat)
  | fieldCount (expected found : Nat)
  | malformed (cause : Malformed)
  | tableNotFound (name : String)
  | unknownColumn (table column : String)
  | lookupNotSupported (table : String)
  | invalidHint (cause : HintFault)
  | configuration
  | overflow

namespace Malformed

def message : Malformed → String
  | .incomparable left right op =>
    "cannot compare " ++ left.name ++ " with " ++ right.name ++ " using '" ++ op.symbol ++ "'"
  | .wrongArity op expected found =>
    "'" ++ op.symbol ++ "' expects " ++ Text.decimal expected ++ " operand(s), got " ++ Text.decimal found
  | .tooFewOperands op found =>
    "'" ++ op.symbol ++ "' needs at least two operands, got " ++ Text.decimal found
  | .operandNotBoolean op found => "'" ++ op.symbol ++ "' operands must be boolean, found " ++ found.name
  | .likeNeedsTexts => "LIKE operands must be strings"
  | .needsType op => "'" ++ op.symbol ++ "' requires an explicit result type"
  | .uncastable source target => "cannot cast " ++ source.name ++ " to " ++ target.name
  | .mistyped index claimed field actual =>
    "reference $" ++ Text.decimal index ++ " is typed " ++ claimed.name ++ " but field '" ++ field ++
      "' is " ++ actual.name
  | .filterNotBoolean found => "calc filter must be boolean, found " ++ found.name
  | .conditionNotBoolean found => "join condition must be boolean, found " ++ found.name

end Malformed

namespace HintFault

def message : HintFault → String
  | .unknownOption name => "unknown lookup hint option: '" ++ name ++ "'"
  | .async text => "invalid async: '" ++ text ++ "'"
  | .outputMode text =>
    "invalid output-mode: '" ++ text ++ "' (expected 'ordered' or 'allow_unordered')"
  | .capacity text => "invalid capacity: '" ++ text ++ "'"
  | .duration text => "invalid duration: '" ++ text ++ "'"
  | .partialRetry =>
    "retry options must be given together: retry-predicate, retry-strategy, fixed-delay, max-attempts"
  | .retryPredicate text => "unsupported retry-predicate: '" ++ text ++ "'"
  | .retryStrategy text => "unsupported retry-strategy: '" ++ text ++ "'"
  | .maxAttempts text => "invalid max-attempts: '" ++ text ++ "'"
  | .otherTable hinted joined =>
    "hint targets table '" ++ hinted ++ "' but the join looks up '" ++ joined ++ "'"

end HintFault

def IndexRole.name : IndexRole → String
  | .inputReference => "input reference"
  | .joinKeySource => "join key source"
  | .joinKeyTarget => "join key target"

namespace Error

def message : Error → String
  | .noLookupKey table =>
    "Planning error: Temporal table join requires an equality condition on fields of table [" ++ table ++ "]."
  | .keyTypes column table columnType field fieldType =>
    "Planning error: lookup key '" ++ column ++ "' of table '" ++ table ++ "' is " ++ columnType.name ++
      " but is joined with '" ++ field ++ "' of type " ++ fieldType.name
  | .calcInput table => "Planning error: calc input does not match the schema of table '" ++ table ++ "'"
  | .unsupportedShape found =>
    "Unsupported plan shape: lookup side must be a table scan, " ++
      "optionally under snapshots and one calc, found " ++ found
  | .indexOutOfRange role index len =>
    role.name ++ " index " ++ Text.decimal index ++ " is out of range for a row of " ++ Text.decimal len ++
      " fields"
  | .fieldCount expected found =>
    "Field count mismatch: expected " ++ Text.decimal expected ++ ", found " ++ Text.decimal found
  | .malformed cause => "Malformed expression: " ++ cause.message
  | .tableNotFound name => "Table not found: " ++ name
  | .unknownColumn table column => "Column '" ++ column ++ "' not found in table '" ++ table ++ "'"
  | .lookupNotSupported table => "Table '" ++ table ++ "' does not support lookup access"
  | .invalidHint cause => "Invalid lookup hint: " ++ cause.message
  | .configuration => "Failed to load configuration"
  | .overflow => "attempt to add with overflow"

end Error

end LookupJoin
