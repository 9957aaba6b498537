import LookupJoin.Proofs.LookupKey.Latest
import LookupJoin.Proofs.Residual
/-!
Which predicates are left over. A pair is consumed when some key is read from its driving field, whatever column
that key stands on. The join, its keys, the width of the driving row and the joined row are any here, whether they
belong together or not. Main statement: a residual that can be built consists of the equalities of the pairs that
are not consumed and of the parts of the other conditions, in their order, nothing twice; there is none exactly
when nothing is left over, and a single predicate stays as it is.
-/
namespace LookupJoin

/-- Some key is read from the driving field of the pair. -/
def JoinPair.Consumed (keys : LookupKeys) (pair : JoinPair) : Prop :=
  ∃ column, keys.get? column = some (.field pair.source)

instance (keys : LookupKeys) (pair : JoinPair) : Decidable (pair.Consumed keys) :=
  decidable_of_iff (keys.reads pair.source = true) LookupKeys.reads_iff

namespace Expr

/-- The equality of two fields of the row, each with the type it has there. -/
inductive EquatesFields (row : Schema) (left right : Nat) : Expr → Prop
  | intro {first second : Field} (first_found : row[left]? = some first)
      (second_found : row[right]? = some second) :
      EquatesFields row left right (.call .eq [.ref left first.type, .ref right second.type] .boolean)

variable {row : Schema} {left right : Nat} {expr : Expr}

theorem equatesFields_iff :
    expr.EquatesFields row left right ↔
      left < row.length ∧ right < row.length ∧
        expr = .call .eq [.ref left (row.typeAt left), .ref right (row.typeAt right)] .boolean := by
  constructor
  · intro equates
    obtain ⟨found, found'⟩ := equates
    obtain ⟨inside, rfl⟩ := List.getElem?_eq_some_iff.1 found
    obtain ⟨inside', rfl⟩ := List.getElem?_eq_some_iff.1 found'
    simp [Schema.typeAt, inside, inside']
  · intro equates
    obtain ⟨inside, inside', rfl⟩ := equates
    have found := List.getElem?_eq_getElem inside
    have found' := List.getElem?_eq_getElem inside'
    simpa [Schema.typeAt, found, found'] using EquatesFields.intro found found'

theorem EquatesFields.conjuncts (equates : expr.EquatesFields row left right) : expr.conjuncts = [expr] := by
  cases equates
  exact conjuncts_of_operator_ne (by decide)

end Expr

namespace JoinInfo

/-- The equalities of the pairs that are not consumed, in their order. -/
def Leftover (info : JoinInfo) (keys : LookupKeys) (drivingLen : Nat) (joined : Schema)
    (equalities : List Expr) : Prop :=
  List.Forall₂ (fun pair => Expr.EquatesFields joined pair.source (drivingLen + pair.target))
    (info.pairs.filter fun pair => ¬pair.Consumed keys) equalities

variable {info : JoinInfo} {keys : LookupKeys} {drivingLen : Nat} {joined : Schema} {pair : JoinPair}
  {equalities : List Expr}

theorem unread_eq (info : JoinInfo) (keys : LookupKeys) :
    info.unread keys = info.pairs.filter fun pair => ¬pair.Consumed keys := by
  refine List.filter_congr fun pair _ => ?_
  have same : pair.Consumed keys ↔ keys.reads pair.source = true := LookupKeys.reads_iff.symm
  simp [same]

theorem equatesFields_of_equality {expr : Expr} (equated : equality drivingLen joined pair = .ok expr) :
    expr.EquatesFields joined pair.source (drivingLen + pair.target) := by
  obtain ⟨source, _, target, _, same⟩ := equality_eq_ok.1 equated
  exact Expr.equatesFields_iff.2 ⟨source, target, same⟩

theorem leftover_of_mapM (mapped : (info.unread keys).mapM (equality drivingLen joined) = .ok equalities) :
    info.Leftover keys drivingLen joined equalities := by
  rw [unread_eq] at mapped
  exact (Outcome.mapM_eq_ok.1 mapped).imp fun _ _ equated => equatesFields_of_equality equated

theorem flatMap_conjuncts_of_equates {pairs : List JoinPair}
    (equates : List.Forall₂ (fun pair => Expr.EquatesFields joined pair.source (drivingLen + pair.target)) pairs
      equalities) :
    equalities.flatMap Expr.conjuncts = equalities := by
  induction equates with
  | nil => rfl
  | cons first _ ih => rw [List.flatMap_cons, first.conjuncts, ih, List.singleton_append]

theorem Leftover.eq_nil_iff (leftover : info.Leftover keys drivingLen joined equalities) :
    equalities = [] ↔ ∀ pair ∈ info.pairs, pair.Consumed keys := by
  rw [← List.length_eq_zero_iff, ← List.Forall₂.length_eq leftover, List.length_eq_zero_iff, List.filter_eq_nil_iff]
  simp

theorem exists_leftover {residual : Option Expr} (built : info.residual keys drivingLen joined = .ok residual) :
    ∃ equalities, info.Leftover keys drivingLen joined equalities ∧
      Expr.conjoin (equalities ++ info.conditions) = .ok residual ∧
      (residual.map Expr.conjuncts).getD [] = equalities ++ info.conditions.flatMap Expr.conjuncts := by
  obtain ⟨equalities, mapped, conjoined⟩ := Outcome.bind_eq_ok.1 built
  have leftover := leftover_of_mapM mapped
  refine ⟨equalities, leftover, conjoined, ?_⟩
  rw [Expr.conjuncts_conjoin conjoined, List.flatMap_append, flatMap_conjuncts_of_equates leftover]

theorem residual_leftover {residual : Option Expr} (built : info.residual keys drivingLen joined = .ok residual) :
    ∃ equalities, info.Leftover keys drivingLen joined equalities ∧
      (residual.map Expr.conjuncts).getD [] = equalities ++ info.conditions.flatMap Expr.conjuncts ∧
      (residual = none ↔ (∀ pair ∈ info.pairs, pair.Consumed keys) ∧ info.conditions = []) ∧
      ∀ predicate, equalities ++ info.conditions = [predicate] → residual = some predicate := by
  obtain ⟨equalities, leftover, conjoined, parts⟩ := exists_leftover built
  refine ⟨equalities, leftover, parts, ?_, ?_⟩
  · rw [Expr.conjoin_eq_none_iff conjoined, List.append_eq_nil_iff, leftover.eq_nil_iff]
  · intro predicate single
    rw [single] at conjoined
    exact (Except.ok.inj conjoined).symm

def agedRow : Schema := [⟨"a", .int32, false, []⟩, ⟨"b", .int32, true, []⟩, ⟨"id", .int64, false, []⟩,
  ⟨"age", .int32, true, []⟩]

def agedJoin : JoinInfo where
  pairs := [⟨1, 1⟩, ⟨0, 0⟩, ⟨1, 0⟩]
  conditions := [.call .and [.call .gt [.ref 3 .int32, .lit (.int true .w32 (some 18)) .int32] .boolean,
    .call .and [.lit .null .null, .lit (.boolean (some true)) .boolean] .boolean] .boolean]

theorem residual_leftover_aged :
    ∃ residual, agedJoin.residual (.ofList [(0, .field 0)]) 2 agedRow = .ok residual ∧
      ∃ equalities, agedJoin.Leftover (.ofList [(0, .field 0)]) 2 agedRow equalities ∧
        (residual.map Expr.conjuncts).getD [] = equalities ++ agedJoin.conditions.flatMap Expr.conjuncts ∧
        (residual = none ↔
          (∀ pair ∈ agedJoin.pairs, pair.Consumed (.ofList [(0, .field 0)])) ∧ agedJoin.conditions = []) ∧
        ∀ predicate, equalities ++ agedJoin.conditions = [predicate] → residual = some predicate := by
  have built : agedJoin.residual (.ofList [(0, .field 0)]) 2 agedRow = .ok _ := rfl
  exact ⟨_, built, residual_leftover built⟩

end JoinInfo

end LookupJoin
