import LookupJoin.Calc
/-!
The lookup side of a join before it is planned. Only some shapes can be looked up: the scan of a table,
under any number of snapshots, these under at most one calculation.
-/
namespace LookupJoin

/-- A snapshot shows its input at a point in time; `values` are rows given in place. -/
inductive LogicalPlan where
  | scan (table : String)
  | snapshot (input : LogicalPlan)
  | calculation (program : Calc) (input : LogicalPlan)
  | values (schema : Schema)

namespace LogicalPlan

def name : LogicalPlan → String
  | .scan _ => "TableScan"
  | .snapshot _ => "Snapshot"
  | .calculation _ _ => "Calc"
  | .values _ => "Values"

def scanned? : LogicalPlan → Option String
  | .scan table => some table
  | .snapshot input => input.scanned?
  | _ => none

def lookupSource? : LogicalPlan → Option (Option Calc × String)
  | .calculation program input => input.scanned?.map fun table => (some program, table)
  | plan => plan.scanned?.map fun table => (none, table)

end LogicalPlan

end LookupJoin
