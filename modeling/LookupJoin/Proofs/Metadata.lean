import LookupJoin.Residual
/-!
Metadata of fields. What is checked and built over a row depends on the names, the types and the nullability
of its fields only, so rows that are the same without metadata are the same to a join.
-/
namespace LookupJoin

def FieldOf.bare {τ : Type} (field : FieldOf τ) : FieldOf τ := { field with metadata := [] }

namespace Schema

def bare (row : Schema) : Schema := row.map FieldOf.bare

@[simp] theorem getElem?_bare (row : Schema) (index : Nat) : row.bare[index]? = row[index]?.map FieldOf.bare :=
  List.getElem?_map

@[simp] theorem length_bare (row : Schema) : row.bare.length = row.length := List.length_map ..

@[simp] theorem bare_bare (row : Schema) : row.bare.bare = row.bare := List.map_map ..

end Schema

theorem JoinType.bare_joinedRow (joinType : JoinType) (driving lookup : Schema) :
    (joinType.joinedRow driving lookup).bare = joinType.joinedRow driving.bare lookup.bare := by
  simp only [joinedRow, Schema.bare, List.map_append, List.map_map]
  rfl

namespace Expr

theorem column_bare (row : Schema) (index : Nat) : column row.bare index = column row index := by
  rw [column, column, Schema.getElem?_bare, Schema.length_bare]
  cases row[index]? <;> rfl

theorem checkRef_bare (row : Schema) : checkRef row.bare = checkRef row := by
  funext ref
  rw [checkRef, checkRef, Schema.getElem?_bare, Schema.length_bare]
  cases row[ref.1]? <;> rfl

theorem validatePredicate_bare (row : Schema) : validatePredicate row.bare = validatePredicate row := by
  funext fault expr
  rw [validatePredicate, validatePredicate, validate, validate, checkRef_bare]

end Expr

theorem JoinInfo.residual_bare (info : JoinInfo) (keys : LookupKeys) (drivingLen : Nat) (row : Schema) :
    info.residual keys drivingLen row.bare = info.residual keys drivingLen row := by
  have equalities : equality drivingLen row.bare = equality drivingLen row := by
    funext pair
    simp only [equality, Expr.column_bare]
  rw [residual, residual, equalities]

end LookupJoin
