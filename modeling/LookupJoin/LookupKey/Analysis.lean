import LookupJoin.Calc
import LookupJoin.DataType.Interoperable
import LookupJoin.Expr.Conjunct
import LookupJoin.Join
import LookupJoin.LookupKey
/-!
Which keys a join can hand to the lookup. A pair of the join gives a key when its target traces back to a
raw column, through the calculation if there is one; a conjunct `column = literal` of the filter fixes its
column to the literal. On one column a later pair stands over an earlier one, and any pair over the filter.
-/
namespace LookupJoin

/-- The field an expression forwards, when only identity calls and casts between interoperable types stand between
them. Anything else, a literal or a lossy cast included, forwards nothing. -/
def Expr.source? : Expr → Option Nat
  | .ref index _ => some index
  | .call .passThrough (operand :: _) _ => operand.source?
  | .call .cast (operand :: _) target =>
    if operand.type.interoperable target then operand.source? else none
  | _ => none

def Calc.source? (program : Calc) (ordinal : Nat) : Option Nat :=
  (program.projection? ordinal).bind Expr.source?

namespace JoinPair

/-- The raw column a pair compares; its target, when no calculation stands between. -/
def column? (program : Option Calc) (pair : JoinPair) : Option Nat :=
  match program with
  | none => some pair.target
  | some program => program.source? pair.target

def remap? (program : Option Calc) (pair : JoinPair) : Option JoinPair :=
  (pair.column? program).map fun column => ⟨pair.source, column⟩

end JoinPair

namespace LookupKeys

def remap (program : Option Calc) (pairs : List JoinPair) : List JoinPair :=
  pairs.filterMap (JoinPair.remap? program)

def fieldEntry (pair : JoinPair) : Nat × LookupKey := (pair.target, .field pair.source)

def ofPairs (program : Option Calc) (pairs : List JoinPair) : LookupKeys :=
  ofList ((remap program pairs).map fieldEntry)

def constantEntry? : Expr → Option (Nat × LookupKey)
  | .call .eq [.lit value _, .ref column type] _ => some (column, .constant type value)
  | .call .eq [.ref column type, .lit value _] _ => some (column, .constant type value)
  | _ => none

def constantEntries (filter : Expr) : Entries := filter.conjuncts.filterMap constantEntry?

def ofFilter (filter : Option Expr) : LookupKeys := ofList ((filter.map constantEntries).getD [])

def analyze (pairs : List JoinPair) (program : Option Calc) : LookupKeys :=
  (ofFilter (program.bind Calc.filter)).insertAll (ofPairs program pairs).entries

end LookupKeys

end LookupJoin
