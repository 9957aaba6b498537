import LookupJoin.Expr.Conjunct
import LookupJoin.Join
import LookupJoin.LookupKey
/-!
The condition that remains to be checked on the joined row: the pairs that feed no lookup key, as
equalities, and every other condition of the join. A pair feeds a key when some key reads its driving
field.
-/
namespace LookupJoin

namespace LookupKeys

def reads (keys : LookupKeys) (source : Nat) : Bool :=
  keys.entries.any fun entry => entry.2.source? = some source

end LookupKeys

namespace JoinInfo

/-- Where a field of the lookup side stands in the joined row. The sum is one of machine words. -/
def lookupIndex (drivingLen target : Nat) : Except Error Nat :=
  if drivingLen + target < UInt64.size then .ok (drivingLen + target) else .error .overflow

def equality (drivingLen : Nat) (joined : Schema) (pair : JoinPair) : Except Error Expr := do
  let left ← Expr.column joined pair.source
  let index ← lookupIndex drivingLen pair.target
  let right ← Expr.column joined index
  Expr.equals left right

def unread (info : JoinInfo) (keys : LookupKeys) : List JoinPair :=
  info.pairs.filter fun pair => !keys.reads pair.source

def residual (info : JoinInfo) (keys : LookupKeys) (drivingLen : Nat) (joined : Schema) :
    Except Error (Option Expr) := do
  let equalities ← (info.unread keys).mapM (equality drivingLen joined)
  Expr.conjoin (equalities ++ info.conditions)

end JoinInfo

end LookupJoin
