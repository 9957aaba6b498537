import LookupJoin.Expr
/-!
Joins as they are asked for. The lookup table is always the right side. The joined row has the fields of
the driving row first and those of the lookup side after them; the lookup side is the output of the
calculation on the table where there is one.
-/
namespace LookupJoin

inductive JoinType where
  | inner | leftOuter | semi | anti
deriving DecidableEq, Repr

structure JoinPair where
  source : Nat
  target : Nat
deriving DecidableEq, Repr

/-- The conditions are read over the joined row. -/
structure JoinInfo where
  pairs : List JoinPair
  conditions : List Expr

namespace JoinType

def text : JoinType → String
  | .inner => "InnerJoin"
  | .leftOuter => "LeftOuterJoin"
  | .semi => "SemiJoin"
  | .anti => "AntiJoin"

/-- Whether a driving row without a match is put out with nulls on the lookup side. -/
def fillsNulls : JoinType → Bool
  | .leftOuter => true
  | _ => false

def lookupField (joinType : JoinType) (field : Field) : Field :=
  { field with nullable := field.nullable || joinType.fillsNulls }

def joinedRow (joinType : JoinType) (driving lookup : Schema) : Schema :=
  driving ++ lookup.map joinType.lookupField

@[simp] theorem length_joinedRow (joinType : JoinType) (driving lookup : Schema) :
    (joinType.joinedRow driving lookup).length = driving.length + lookup.length := by
  simp [joinedRow]

theorem joinedRow_driving {joinType : JoinType} {driving lookup : Schema} {index : Nat}
    (inside : index < driving.length) : (joinType.joinedRow driving lookup)[index]? = driving[index]? :=
  List.getElem?_append_left inside

theorem joinedRow_lookup (joinType : JoinType) (driving lookup : Schema) (index : Nat) :
    (joinType.joinedRow driving lookup)[driving.length + index]? =
      lookup[index]?.map joinType.lookupField := by
  rw [joinedRow, List.getElem?_append_right (Nat.le_add_right _ _), Nat.add_sub_cancel_left, List.getElem?_map]

end JoinType

end LookupJoin
