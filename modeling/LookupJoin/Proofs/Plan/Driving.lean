import LookupJoin.Proofs.Expr.Renumber
import LookupJoin.Proofs.Plan.LostPair
/-!
Plans over another driving row. Pairs are given by side, so their equalities move along with the lookup side;
the other conditions are given over the joined row and stay as they are. Main statement: a condition on the
lookup side is found at its new place only where it stood before, and the residual as a whole is in place
exactly when the width is the same or no such condition reads a field.
-/
namespace LookupJoin

/-- Where a field of the lookup side goes when the driving row changes its width. -/
def JoinInfo.rebase (width width' index : Nat) : Nat := width' + (index - width)

theorem JoinInfo.rebase_eq_self_iff {width width' index : Nat} (lookup : width ≤ index) :
    rebase width width' index = index ↔ width' = width := by
  unfold rebase
  omega

theorem flatMap_eq_flatMap_iff {α β : Type} {items : List α} {first second : α → List β}
    (lengths : ∀ item ∈ items, (first item).length = (second item).length) :
    items.flatMap first = items.flatMap second ↔ ∀ item ∈ items, first item = second item := by
  induction items with
  | nil => simp
  | cons item rest ih =>
    have head := lengths item List.mem_cons_self
    have tail := ih fun other member => lengths other (List.mem_cons_of_mem _ member)
    rw [List.flatMap_cons, List.flatMap_cons, List.forall_mem_cons, ← tail]
    constructor
    · intro same
      exact List.append_inj same head
    · rintro ⟨same, same'⟩
      rw [same, same']

namespace JoinPlan

def LookupOnly (plan : JoinPlan) (condition : Expr) : Prop :=
  ∀ ref ∈ condition.refs, plan.input.driving.length ≤ ref.1

def rebased (plan : JoinPlan) (driving : Schema) (condition : Expr) : Expr :=
  condition.renumber (JoinInfo.rebase plan.input.driving.length driving.length)

instance (plan : JoinPlan) (condition : Expr) : Decidable (plan.LookupOnly condition) :=
  inferInstanceAs (Decidable (∀ ref ∈ condition.refs, _))

/-- What should become of a condition. -/
def moved (plan : JoinPlan) (driving : Schema) (condition : Expr) : Expr :=
  if plan.LookupOnly condition then plan.rebased driving condition else condition

/-- The residual has all conjuncts of the condition. -/
def Carries (plan : JoinPlan) (condition : Expr) : Prop :=
  ∀ conjunct ∈ condition.conjuncts, conjunct ∈ plan.conjuncts

variable {plan other : JoinPlan} {driving : Schema} {condition conjunct : Expr}

theorem refs_rebased {ref : Nat × DataType} (read : ref ∈ (plan.rebased driving condition).refs) :
    driving.length ≤ ref.1 := by
  rw [rebased, Expr.refs_renumber] at read
  obtain ⟨_, _, rfl⟩ := List.mem_map.1 read
  exact Nat.le_add_right _ _

theorem conjuncts_rebased_eq_iff (lookup : plan.LookupOnly condition) :
    (plan.rebased driving condition).conjuncts = condition.conjuncts ↔
      driving.length = plan.input.driving.length ∨ condition.refs = [] := by
  rw [rebased, Expr.conjuncts_renumber_eq_self_iff]
  constructor
  · intro kept
    cases reads : condition.refs with
    | nil => exact .inr rfl
    | cons ref rest =>
      have member : ref ∈ condition.refs := reads ▸ List.mem_cons_self
      exact .inl ((JoinInfo.rebase_eq_self_iff (lookup ref member)).1 (kept ref member))
  · rintro (width | none) ref member
    · exact (JoinInfo.rebase_eq_self_iff (lookup ref member)).2 width
    · rw [none] at member
      cases member

theorem conjuncts_moved_eq_iff :
    (plan.moved driving condition).conjuncts = condition.conjuncts ↔
      driving.length = plan.input.driving.length ∨ (plan.LookupOnly condition → condition.refs = []) := by
  by_cases lookup : plan.LookupOnly condition
  · rw [moved, if_pos lookup, conjuncts_rebased_eq_iff lookup]
    simp [lookup]
  · rw [moved, if_neg lookup]
    simp [lookup]

theorem length_conjuncts_moved : (plan.moved driving condition).conjuncts.length = condition.conjuncts.length := by
  unfold moved
  split
  · rw [rebased, Expr.conjuncts_renumber, List.length_map]
  · rfl

theorem equalityOf_not_mem_rebased {pair : JoinPair} (member : pair ∈ other.input.info.pairs) :
    other.equalityOf pair ∉ (plan.rebased other.input.driving condition).conjuncts := by
  intro inside
  have source : pair.source < other.input.driving.length := (other.admissible.pairs pair member).1
  -- The equality reads the driving field, and nothing rebased reads one.
  have read : (pair.source, other.row.typeAt pair.source) ∈ (other.equalityOf pair).refs := by
    simp [equalityOf, JoinInfo.equalityOf, Expr.refs]
  have lookup := refs_rebased (Expr.mem_refs_of_conjunct inside read)
  omega

theorem carries_rebased_iff :
    other.Carries (plan.rebased other.input.driving condition) ↔
      ∀ conjunct ∈ (plan.rebased other.input.driving condition).conjuncts,
        conjunct ∈ other.input.info.conditions.flatMap Expr.conjuncts := by
  refine forall₂_congr fun conjunct inside => ?_
  rw [conjuncts_eq, List.mem_append]
  constructor
  · rintro (equality | condition)
    · -- An equality reads a driving field, so it cannot be the conjunct.
      obtain ⟨pair, unread, rfl⟩ := List.mem_map.1 equality
      exact absurd inside (equalityOf_not_mem_rebased (mem_unread_iff.1 unread).1)
    · exact condition
  · exact .inr

theorem conjuncts_in_place_iff :
    other.conjuncts = other.unread.map other.equalityOf ++
        (other.input.info.conditions.map (plan.moved other.input.driving)).flatMap Expr.conjuncts ↔
      other.input.driving.length = plan.input.driving.length ∨
        ∀ condition ∈ other.input.info.conditions, plan.LookupOnly condition → condition.refs = [] := by
  rw [conjuncts_eq, List.append_cancel_left_eq, List.flatMap_map, eq_comm,
    flatMap_eq_flatMap_iff fun _ _ => length_conjuncts_moved]
  simp only [conjuncts_moved_eq_iff]
  by_cases width : other.input.driving.length = plan.input.driving.length
  · simp [width]
  · simp [width]

theorem withDriving_eq_ok : plan.withDriving driving = .ok other ↔ other.input = { plan.input with driving } :=
  build_eq_ok

theorem conditions_after_withDriving (rederived : plan.withDriving driving = .ok other) :
    (∀ condition ∈ plan.input.info.conditions, plan.LookupOnly condition →
      (other.Carries (plan.rebased driving condition) ↔
        ∀ conjunct ∈ (plan.rebased driving condition).conjuncts,
          conjunct ∈ plan.input.info.conditions.flatMap Expr.conjuncts)) ∧
      (other.conjuncts = other.unread.map other.equalityOf ++
          (plan.input.info.conditions.map (plan.moved driving)).flatMap Expr.conjuncts ↔
        driving.length = plan.input.driving.length ∨
          ∀ condition ∈ plan.input.info.conditions, plan.LookupOnly condition → condition.refs = []) := by
  have input := withDriving_eq_ok.1 rederived
  have row : other.input.driving = driving := by rw [input]
  have info : other.input.info = plan.input.info := by rw [input]
  rw [← row, ← info]
  exact ⟨fun condition _ _ => carries_rebased_iff, conjuncts_in_place_iff⟩

def overEighteen : Expr := .call .gt [.ref 2 .int32, .lit (.int true .w32 (some 18)) .int32] .boolean

def adults : JoinPlan where
  input := {
    driving := [⟨"a", .int32, false, []⟩]
    table := ⟨"D", [⟨"id", .int32, false, []⟩, ⟨"age", .int32, true, []⟩], none, ⟨true, false⟩⟩
    joinType := .inner
    info := ⟨[⟨0, 0⟩], [overEighteen]⟩ }
  residual := some overEighteen
  accepted := rfl

/-- The same join over a wider driving row. The third place is now that of the identifier. -/
def widerAdults : JoinPlan where
  input := { adults.input with driving := [⟨"x", .int32, false, []⟩, ⟨"y", .int32, false, []⟩] }
  residual := some overEighteen
  accepted := rfl

theorem conditions_widerAdults :
    adults.withDriving widerAdults.input.driving = .ok widerAdults ∧
      (∀ condition ∈ adults.input.info.conditions, adults.LookupOnly condition →
        (widerAdults.Carries (adults.rebased widerAdults.input.driving condition) ↔
          ∀ conjunct ∈ (adults.rebased widerAdults.input.driving condition).conjuncts,
            conjunct ∈ adults.input.info.conditions.flatMap Expr.conjuncts)) ∧
        (widerAdults.conjuncts = widerAdults.unread.map widerAdults.equalityOf ++
            (adults.input.info.conditions.map (adults.moved widerAdults.input.driving)).flatMap Expr.conjuncts ↔
          widerAdults.input.driving.length = adults.input.driving.length ∨
            ∀ condition ∈ adults.input.info.conditions, adults.LookupOnly condition → condition.refs = []) := by
  have rederived : adults.withDriving widerAdults.input.driving = .ok widerAdults := withDriving_eq_ok.2 rfl
  exact ⟨rederived, conditions_after_withDriving rederived⟩

theorem not_carries_widerAdults :
    adults.withDriving widerAdults.input.driving = .ok widerAdults ∧
      overEighteen ∈ adults.input.info.conditions ∧ adults.LookupOnly overEighteen ∧
        ¬widerAdults.Carries (adults.rebased widerAdults.input.driving overEighteen) := by
  refine ⟨withDriving_eq_ok.2 rfl, List.mem_singleton_self _, by decide, ?_⟩
  intro carried
  have member : adults.rebased widerAdults.input.driving overEighteen ∈ [overEighteen] :=
    carried _ (List.mem_singleton_self _)
  cases List.mem_singleton.1 member

end JoinPlan

end LookupJoin
