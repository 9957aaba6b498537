import LookupJoin.Residual
import LookupJoin.Proofs.Expr.WellFormed
/-!
What the residual condition consists of. The equality of a pair compares its driving field with its field of the
lookup side, that many places after the driving row; a place that is no machine word makes no equality. Main
statements: the conjuncts of the residual are the equalities of the pairs that feed no key, in their order, and
after them the conjuncts of the other conditions; with boolean conditions the residual can be built as soon as
all these equalities can; and it is a predicate over the joined row when the conditions are.
-/
namespace LookupJoin

namespace JoinInfo

variable {casts : CastRule}

theorem mem_unread_iff {info : JoinInfo} {keys : LookupKeys} {pair : JoinPair} :
    pair ∈ info.unread keys ↔ pair ∈ info.pairs ∧ keys.reads pair.source = false := by
  simp [unread]

/-- The equality a pair stands for. -/
def equalityOf (drivingLen : Nat) (joined : Schema) (pair : JoinPair) : Expr :=
  let target := drivingLen + pair.target
  .call .eq [.ref pair.source (joined.typeAt pair.source), .ref target (joined.typeAt target)] .boolean

theorem lookupIndex_eq_ok {drivingLen target index : Nat} :
    lookupIndex drivingLen target = .ok index ↔ drivingLen + target < UInt64.size ∧ index = drivingLen + target := by
  by_cases word : drivingLen + target < UInt64.size
  · rw [lookupIndex, if_pos word]
    simp [word, eq_comm]
  · rw [lookupIndex, if_neg word]
    simp [word]

theorem lookupIndex_eq_error {drivingLen target : Nat} {fault : Error} :
    lookupIndex drivingLen target = .error fault ↔ UInt64.size ≤ drivingLen + target ∧ fault = .overflow := by
  by_cases word : drivingLen + target < UInt64.size
  · rw [lookupIndex, if_pos word]
    simp [Nat.not_le.2 word]
  · rw [lookupIndex, if_neg word]
    simp [Nat.not_lt.1 word, eq_comm]

theorem equality_eq_ok {drivingLen : Nat} {joined : Schema} {pair : JoinPair} {expr : Expr} :
    equality drivingLen joined pair = .ok expr ↔
      pair.source < joined.length ∧ drivingLen + pair.target < UInt64.size ∧ drivingLen + pair.target < joined.length ∧
        (joined.typeAt pair.source).comparable (joined.typeAt (drivingLen + pair.target)) = true ∧
          expr = equalityOf drivingLen joined pair := by
  simp only [equality, Outcome.bind_eq_ok, Expr.column_eq_ok, lookupIndex_eq_ok, Expr.equals_eq_ok]
  constructor
  · rintro ⟨_, ⟨source, rfl⟩, _, ⟨word, rfl⟩, _, ⟨target, rfl⟩, comparable, rfl⟩
    exact ⟨source, word, target, comparable, rfl⟩
  · rintro ⟨source, word, target, comparable, rfl⟩
    exact ⟨_, ⟨source, rfl⟩, _, ⟨word, rfl⟩, _, ⟨target, rfl⟩, comparable, rfl⟩

theorem conjuncts_equalityOf (drivingLen : Nat) (joined : Schema) (pair : JoinPair) :
    (equalityOf drivingLen joined pair).conjuncts = [equalityOf drivingLen joined pair] :=
  Expr.conjuncts_of_operator_ne (by decide)

theorem conjuncts_residual {info : JoinInfo} {keys : LookupKeys} {drivingLen : Nat} {joined : Schema}
    {residual : Option Expr} (built : info.residual keys drivingLen joined = .ok residual) :
    (residual.map Expr.conjuncts).getD [] =
      (info.unread keys).map (equalityOf drivingLen joined) ++ info.conditions.flatMap Expr.conjuncts := by
  obtain ⟨equalities, mapped, conjoined⟩ := Outcome.bind_eq_ok.1 built
  have same : equalities = (info.unread keys).map (equalityOf drivingLen joined) := by
    refine Outcome.eq_map_of_mapM mapped fun pair _ expr equated => ?_
    obtain ⟨_, _, _, _, same⟩ := equality_eq_ok.1 equated
    exact same
  rw [Expr.conjuncts_conjoin conjoined, List.flatMap_append, same, List.flatMap_map]
  congr 1
  simp only [conjuncts_equalityOf, List.map_eq_flatMap]

theorem type_equality {drivingLen : Nat} {joined : Schema} {pair : JoinPair} {expr : Expr}
    (equated : equality drivingLen joined pair = .ok expr) : expr.type = .boolean := by
  obtain ⟨_, _, _, _, rfl⟩ := equality_eq_ok.1 equated
  rfl

theorem validate_equality {drivingLen : Nat} {joined : Schema} {pair : JoinPair} {expr : Expr}
    (equated : equality drivingLen joined pair = .ok expr) : expr.validate joined = .ok () := by
  obtain ⟨source, _, target, _, rfl⟩ := equality_eq_ok.1 equated
  refine Expr.validate_call.2 fun operand member => ?_
  rcases List.mem_pair.1 member with rfl | rfl
  · exact Expr.validate_ref source
  · exact Expr.validate_ref target

theorem predicateOn_equality {drivingLen : Nat} {joined : Schema} {pair : JoinPair} {expr : Expr}
    (equated : equality drivingLen joined pair = .ok expr) : Expr.PredicateOn casts joined expr := by
  obtain ⟨_, _, _, comparable, rfl⟩ := equality_eq_ok.1 equated
  refine ⟨.call (Expr.comparisonFault?_pair.2 comparable) ?_, rfl, validate_equality equated⟩
  intro operand member
  rcases List.mem_pair.1 member with rfl | rfl
  · exact .ref _ _
  · exact .ref _ _

theorem predicateOn_residual {info : JoinInfo} {keys : LookupKeys} {drivingLen : Nat} {joined : Schema}
    {residual : Option Expr} (built : info.residual keys drivingLen joined = .ok residual)
    (conditions : ∀ condition ∈ info.conditions, Expr.PredicateOn casts joined condition) :
    ∀ predicate ∈ residual, Expr.PredicateOn casts joined predicate := by
  obtain ⟨equalities, mapped, conjoined⟩ := Outcome.bind_eq_ok.1 built
  refine Expr.PredicateOn.of_conjoin (fun predicate member => ?_) conjoined
  rcases List.mem_append.1 member with equality | condition
  · obtain ⟨pair, _, equated⟩ := Outcome.exists_of_mem_mapM mapped predicate equality
    exact predicateOn_equality equated
  · exact conditions predicate condition

theorem validate_residual {info : JoinInfo} {keys : LookupKeys} {drivingLen : Nat} {joined : Schema}
    {residual : Option Expr} (built : info.residual keys drivingLen joined = .ok residual)
    (conditions : ∀ condition ∈ info.conditions, condition.validate joined = .ok ()) :
    ∀ predicate ∈ residual, predicate.validate joined = .ok () := by
  obtain ⟨equalities, mapped, conjoined⟩ := Outcome.bind_eq_ok.1 built
  refine Expr.validate_of_conjoin (fun predicate member => ?_) conjoined
  rcases List.mem_append.1 member with equality | condition
  · obtain ⟨pair, _, equated⟩ := Outcome.exists_of_mem_mapM mapped predicate equality
    exact validate_equality equated
  · exact conditions predicate condition

theorem exists_residual_eq_ok {info : JoinInfo} {keys : LookupKeys} {drivingLen : Nat} {joined : Schema}
    (boolean : ∀ condition ∈ info.conditions, condition.type = .boolean) :
    (∃ residual, info.residual keys drivingLen joined = .ok residual) ↔
      ∀ pair ∈ info.unread keys, ∃ expr, equality drivingLen joined pair = .ok expr := by
  rw [← Outcome.exists_mapM_eq_ok]
  constructor
  · rintro ⟨residual, built⟩
    obtain ⟨equalities, mapped, _⟩ := Outcome.bind_eq_ok.1 built
    exact ⟨equalities, mapped⟩
  · rintro ⟨equalities, mapped⟩
    obtain ⟨residual, conjoined⟩ := Expr.exists_conjoin_eq_ok fun predicate member => by
      rcases List.mem_append.1 member with equality | condition
      · obtain ⟨pair, _, equated⟩ := Outcome.exists_of_mem_mapM mapped predicate equality
        exact type_equality equated
      · exact boolean predicate condition
    exact ⟨residual, Outcome.bind_eq_ok.2 ⟨equalities, mapped, conjoined⟩⟩

end JoinInfo

end LookupJoin
