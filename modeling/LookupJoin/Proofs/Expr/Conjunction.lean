import LookupJoin.DataType.Castable
import LookupJoin.Proofs.Expr.Construction
/-!
Conjunctions taken apart and put together again, and what they are worth in three-valued logic: false as soon as one
operand is, true when all operands are, and otherwise unknown. Main statement: no conjunct is itself a conjunction,
and an expression is worth what its conjuncts are worth together, whatever all else is worth; putting predicates
together lists their conjuncts one after the other; and an expression made by the checked constructors can be put
together again from its conjuncts, with the same conjuncts and nothing left to change.
-/
namespace LookupJoin

inductive Truth where
  | no | unknown | yes
deriving DecidableEq, Repr

namespace Truth

def all (truths : List Truth) : Truth :=
  if .no ∈ truths then .no else if .unknown ∈ truths then .unknown else .yes

theorem all_eq_no_iff {truths : List Truth} : all truths = .no ↔ .no ∈ truths := by
  unfold all
  split
  next no => simp [no]
  next none => split <;> simp [none]

theorem all_eq_yes_iff {truths : List Truth} : all truths = .yes ↔ ∀ truth ∈ truths, truth = .yes := by
  unfold all
  constructor
  · intro yes truth member
    cases truth with
    | no => simp [member] at yes
    | unknown => by_cases no : Truth.no ∈ truths <;> simp [no, member] at yes
    | yes => rfl
  · intro each
    have no : Truth.no ∉ truths := fun member => by cases each _ member
    have unknown : Truth.unknown ∉ truths := fun member => by cases each _ member
    rw [if_neg no, if_neg unknown]

theorem eq_of_iff {left right : Truth} (no : left = .no ↔ right = .no) (yes : left = .yes ↔ right = .yes) :
    left = right := by
  cases left <;> cases right <;> simp at no yes ⊢

theorem all_singleton (truth : Truth) : all [truth] = truth := by
  cases truth <;> rfl

theorem all_map_all (groups : List (List Truth)) : all (groups.map all) = all groups.flatten := by
  apply eq_of_iff
  · simp [all_eq_no_iff]
  · simp only [all_eq_yes_iff, List.forall_mem_map, List.mem_flatten]
    constructor
    · intro each truth member
      obtain ⟨group, listed, inside⟩ := member
      exact each group listed truth inside
    · intro each group listed truth inside
      exact each truth ⟨group, listed, inside⟩

end Truth

namespace Expr

mutual

/-- The worth of an expression, conjunctions by those of their operands and all else as it is read. -/
def truth (read : Expr → Truth) : Expr → Truth
  | .call .and operands _ => .all (truths read operands)
  | expr => read expr

def truths (read : Expr → Truth) : List Expr → List Truth
  | [] => []
  | operand :: rest => truth read operand :: truths read rest

end

variable {casts : CastRule} {read : Expr → Truth} {expr : Expr}

theorem truths_eq (operands : List Expr) : truths read operands = operands.map (truth read) := by
  induction operands with
  | nil => rfl
  | cons operand rest ih => rw [truths, ih, List.map_cons]

theorem truth_and (operands : List Expr) (type : DataType) :
    truth read (.call .and operands type) = .all (operands.map (truth read)) := by
  rw [truth, truths_eq]

theorem truth_of_operator?_ne (other : expr.operator? ≠ some .and) : truth read expr = read expr := by
  rw [truth]
  intro operands type same
  rw [same] at other
  exact other rfl

theorem operator?_ne_of_mem_conjuncts : ∀ conjunct ∈ expr.conjuncts, conjunct.operator? ≠ some .and := by
  induction expr using induct with
  | ref index type => simp [conjuncts, operator?]
  | lit value type => simp [conjuncts, operator?]
  | call op operands type ih =>
    by_cases conjunction : op = .and
    · subst conjunction
      rw [conjuncts_and]
      intro conjunct member
      obtain ⟨operand, listed, inside⟩ := List.mem_flatMap.1 member
      exact ih operand listed conjunct inside
    · rw [conjuncts_of_operator_ne conjunction]
      simpa [operator?] using conjunction

theorem truth_eq_all_truths : truth read expr = .all (expr.conjuncts.map (truth read)) := by
  induction expr using induct with
  | ref index type => rw [conjuncts, List.map_singleton, Truth.all_singleton]; simp
  | lit value type => rw [conjuncts, List.map_singleton, Truth.all_singleton]; simp
  | call op operands type ih =>
    by_cases conjunction : op = .and
    · subst conjunction
      calc truth read (.call .and operands type)
        _ = .all (operands.map (truth read)) := truth_and operands type
        _ = .all (operands.map fun operand => .all (operand.conjuncts.map (truth read))) := by
          rw [List.map_congr_left ih]
        _ = .all ((operands.map fun operand => operand.conjuncts.map (truth read)).map .all) := by
          rw [List.map_map]; rfl
        _ = .all ((operands.flatMap conjuncts).map (truth read)) := by
          rw [Truth.all_map_all, List.map_flatMap, List.flatMap_def]
        _ = .all ((conjuncts (.call .and operands type)).map (truth read)) := by rw [conjuncts_and]
    · rw [conjuncts_of_operator_ne conjunction, List.map_singleton, Truth.all_singleton]

theorem truth_eq_all_read (read : Expr → Truth) (expr : Expr) : truth read expr = .all (expr.conjuncts.map read) := by
  have each : expr.conjuncts.map (truth read) = expr.conjuncts.map read :=
    List.map_congr_left fun conjunct member => truth_of_operator?_ne (operator?_ne_of_mem_conjuncts conjunct member)
  rw [truth_eq_all_truths, each]

theorem conjuncts_of_operator?_ne (other : expr.operator? ≠ some .and) : expr.conjuncts = [expr] := by
  rw [conjuncts]
  intro operands type same
  rw [same] at other
  exact other rfl

theorem flatMap_conjuncts_conjuncts (expr : Expr) : expr.conjuncts.flatMap conjuncts = expr.conjuncts := by
  have each : ∀ conjunct ∈ expr.conjuncts, conjunct.conjuncts = [conjunct] := fun conjunct member =>
    conjuncts_of_operator?_ne (operator?_ne_of_mem_conjuncts conjunct member)
  rw [List.flatMap_congr each, List.flatMap_singleton']

theorem WellFormed.conjuncts_ne_nil (formed : expr.WellFormed casts) : expr.conjuncts ≠ [] := by
  induction formed with
  | ref index type => simp [conjuncts]
  | lit value type => simp [conjuncts]
  | @call op operands type taken _ ih =>
    by_cases conjunction : op = .and
    · subst conjunction
      obtain ⟨several, _⟩ := connectiveFault?_eq_none.1 taken
      obtain ⟨operand, listed⟩ := List.exists_mem_of_length_pos (Nat.lt_of_lt_of_le Nat.two_pos several)
      rw [conjuncts_and]
      intro none
      exact ih operand listed (List.flatMap_eq_nil_iff.1 none operand listed)
    · simp [conjuncts_of_operator_ne conjunction]

/-- The operands of a conjunction are truth values all the way down. -/
theorem WellFormed.isTruth_of_mem_conjuncts (formed : expr.WellFormed casts) (truth : expr.type.isTruth = true) :
    ∀ conjunct ∈ expr.conjuncts, conjunct.type.isTruth = true := by
  induction formed with
  | ref index type => simpa [conjuncts] using truth
  | lit value type => simpa [conjuncts] using truth
  | @call op operands type taken _ ih =>
    by_cases conjunction : op = .and
    · subst conjunction
      obtain ⟨_, truths⟩ := connectiveFault?_eq_none.1 taken
      rw [conjuncts_and]
      intro conjunct member
      obtain ⟨operand, listed, inside⟩ := List.mem_flatMap.1 member
      exact ih operand listed (truths operand listed) conjunct inside
    · simpa [conjuncts_of_operator_ne conjunction] using truth

theorem Constructed.type_of_and (constructed : expr.Constructed casts) (conjunction : expr.operator? = some .and) :
    expr.type = .boolean := by
  cases constructed with
  | column made =>
    obtain ⟨_, rfl⟩ := column_eq_ok.1 made
    cases conjunction
  | literal value => cases conjunction
  | apply _ made =>
    obtain ⟨_, rfl⟩ := apply_eq_ok.1 made
    cases conjunction
    rfl
  | castTo _ made =>
    obtain ⟨_, rfl⟩ := castTo_eq_ok.1 made
    cases conjunction
  | passThrough _ => cases conjunction
  | function name type _ => cases conjunction

theorem Constructed.exists_conjoin_conjuncts (constructed : expr.Constructed casts) :
    ∃ joined, conjoin expr.conjuncts = .ok (some joined) ∧ joined.conjuncts = expr.conjuncts := by
  have conjoins : ∃ joined, conjoin expr.conjuncts = .ok joined := by
    by_cases conjunction : expr.operator? = some .and
    · have truth : expr.type.isTruth = true := by
        rw [constructed.type_of_and conjunction]
        rfl
      exact exists_conjoin_of_isTruth (constructed.wellFormed.isTruth_of_mem_conjuncts truth)
    · rw [conjuncts_of_operator?_ne conjunction]
      exact ⟨some expr, rfl⟩
  obtain ⟨joined, conjoined⟩ := conjoins
  have parts := conjuncts_conjoin conjoined
  rw [flatMap_conjuncts_conjuncts] at parts
  cases joined with
  | none => exact absurd ((conjoin_eq_none_iff conjoined).1 rfl) constructed.wellFormed.conjuncts_ne_nil
  | some joined => exact ⟨joined, conjoined, parts⟩

theorem conjuncts_and_back :
    (∀ (expr : Expr) (read : Expr → Truth), (∀ conjunct ∈ expr.conjuncts, conjunct.operator? ≠ some .and) ∧
        expr.truth read = .all (expr.conjuncts.map read)) ∧
      (∀ (predicates : List Expr) (joined : Expr), conjoin predicates = .ok (some joined) →
        joined.conjuncts = predicates.flatMap conjuncts) ∧
      ∀ (casts : CastRule) (expr : Expr), expr.Constructed casts →
        ∃ joined, conjoin expr.conjuncts = .ok (some joined) ∧ joined.conjuncts = expr.conjuncts ∧
          conjoin joined.conjuncts = .ok (some joined) := by
  refine ⟨fun expr read => ⟨operator?_ne_of_mem_conjuncts, truth_eq_all_read read expr⟩,
    fun predicates joined conjoined => conjuncts_conjoin conjoined, fun casts expr constructed => ?_⟩
  obtain ⟨joined, conjoined, parts⟩ := constructed.exists_conjoin_conjuncts
  exact ⟨joined, conjoined, parts, parts ▸ conjoined⟩

def exceeds (column : Nat) (limit : Int) : Expr :=
  .call .gt [.ref column .int32, .lit (.int true .w32 (some limit)) .int32] .boolean

def nested : Expr :=
  .call .and [.call .and [exceeds 0 18, .lit (.boolean none) .boolean] .boolean,
    .call .or [exceeds 1 3, exceeds 2 3] .boolean, .lit .null .null] .boolean

theorem constructed_exceeds (column : Nat) (limit : Int) : (exceeds column limit).Constructed casts := by
  have field : Expr.column (List.replicate (column + 1) ⟨"n", .int32, true, []⟩) column = .ok (.ref column .int32) := by
    simp [Expr.column]
  have made : apply .gt [.ref column .int32, literal (.int true .w32 (some limit))] = .ok (exceeds column limit) := rfl
  exact .apply (by simpa using ⟨.column field, .literal _⟩) made

theorem constructed_nested : nested.Constructed casts := by
  have inner : apply .and [exceeds 0 18, literal (.boolean none)] = .ok nested.operands[0] := rfl
  have either : apply .or [exceeds 1 3, exceeds 2 3] = .ok nested.operands[1] := rfl
  have made : apply .and nested.operands = .ok nested := rfl
  refine .apply (List.forall_mem_cons.2 ⟨.apply ?_ inner, List.forall_mem_cons.2 ⟨.apply ?_ either, ?_⟩⟩) made
  · simpa using ⟨constructed_exceeds 0 18, .literal _⟩
  · simpa using ⟨constructed_exceeds 1 3, constructed_exceeds 2 3⟩
  · exact List.forall_mem_singleton.2 (.literal .null)

theorem conjuncts_nested_and_back :
    nested.Constructed DataType.castable ∧ nested.conjuncts.length = 4 ∧
      (∃ joined, conjoin nested.conjuncts = .ok (some joined) ∧ joined.conjuncts = nested.conjuncts ∧
        conjoin joined.conjuncts = .ok (some joined)) ∧
      conjoin [nested, exceeds 0 65] = .ok (some (.call .and [nested, exceeds 0 65] .boolean)) ∧
      (Expr.call .and [nested, exceeds 0 65] .boolean).conjuncts = nested.conjuncts ++ [exceeds 0 65] := by
  have conjoined : conjoin [nested, exceeds 0 65] = .ok (some (.call .and [nested, exceeds 0 65] .boolean)) := rfl
  exact ⟨constructed_nested, rfl, conjuncts_and_back.2.2 DataType.castable nested constructed_nested, conjoined,
    conjuncts_and_back.2.1 _ _ conjoined⟩

end Expr

end LookupJoin
