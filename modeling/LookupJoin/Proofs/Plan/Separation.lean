import LookupJoin.Proofs.Plan.Meaning
/-!
Lost pairs make a difference. The driving field of the lost pair holds the mark sought, its column of the raw
row a truth value, and all else is blank: the plan then finds the two rows together, though the pair does not
hold of them. Main statement: without a filter and other conditions, a plan finds what the join asks for in
every reading and on all rows exactly when no pair is lost.
-/
namespace LookupJoin.JoinPlan

structure PairsOnly (plan : JoinPlan) : Prop where
  filter : plan.input.program.bind Calc.filter = none
  conditions : plan.input.info.conditions = []

def soughtDriving (plan : JoinPlan) (pair : JoinPair) : List Mark :=
  (List.replicate plan.input.driving.length .blank).set pair.source .sought

def truthAt (plan : JoinPlan) (column : Option Nat) : List Mark :=
  (List.range plan.table.schema.length).map fun other => if column = some other then .yes else .blank

variable {plan : JoinPlan} {pair other : JoinPair}

theorem fits_marked (pair : JoinPair) (column : Option Nat) :
    plan.Fits (plan.soughtDriving pair) (plan.truthAt column) :=
  ⟨by simp [soughtDriving], by simp [truthAt]⟩

theorem soughtDriving_source (inside : pair.source < plan.input.driving.length) :
    (plan.soughtDriving pair)[pair.source]? = some .sought := by
  simp [soughtDriving, inside]

theorem soughtDriving_of_ne {source : Nat} (inside : source < plan.input.driving.length)
    (different : source ≠ pair.source) : (plan.soughtDriving pair)[source]? = some .blank := by
  simp [soughtDriving, inside, different.symm]

theorem truthAt_column {column : Nat} (inside : column < plan.table.schema.length) :
    (plan.truthAt (some column))[column]? = some .yes := by
  simp [truthAt, inside]

theorem truthAt_of_ne {column : Option Nat} {place : Nat} (inside : place < plan.table.schema.length)
    (different : column ≠ some place) : (plan.truthAt column)[place]? = some .blank := by
  simp [truthAt, inside, different]

theorem blank_same (mark : Mark) : Mark.reading.same .blank mark := by
  cases mark <;> rfl

theorem pairHolds_of_source_ne {raw : List Mark} (fits : plan.Fits (plan.soughtDriving pair) raw)
    (member : other ∈ plan.input.info.pairs) (different : other.source ≠ pair.source) :
    plan.PairHolds Mark.reading (plan.soughtDriving pair) raw other := by
  obtain ⟨source, target⟩ := plan.admissible.pairs other member
  have width : (Mark.reading.calculated plan.input.program raw).length = plan.input.lookupSide.length :=
    length_calculated fits
  rw [← width] at target
  exact ⟨.blank, soughtDriving_of_ne source different, _, List.getElem?_eq_getElem target, blank_same _⟩

theorem not_pairHolds_marked (member : pair ∈ plan.input.info.pairs) :
    ¬plan.PairHolds Mark.reading (plan.soughtDriving pair) (plan.truthAt (pair.column? plan.input.program))
      pair := by
  have source := soughtDriving_source (plan.admissible.pairs pair member).1
  cases landed : pair.column? plan.input.program with
  | some column =>
    rw [pairHolds_iff_column (fits_marked pair _) member landed]
    rintro ⟨held, truth, held', sought, same⟩
    rw [truthAt_column (column_lt_length member landed)] at truth
    rw [source] at sought
    cases truth
    cases sought
    cases same
  | none =>
    -- The output forwards nothing, so it is worth a truth value.
    rintro ⟨held, sought, held', output, same⟩
    rw [source] at sought
    cases sought
    have truth : held'.isTruth = true := by
      cases present : plan.input.program with
      | none =>
        rw [present] at landed
        cases landed
      | some program =>
        rw [present] at landed output
        obtain ⟨expr, found, rfl⟩ := Option.map_eq_some_iff.1 ((List.getElem?_map ..).symm.trans output)
        have forwards : expr.source? = none := by
          have landed' : (program.projection? pair.target).bind Expr.source? = none := landed
          have found' : program.projection? pair.target = some expr := found
          rwa [found'] at landed'
        exact Mark.isTruth_value forwards
    cases held' with
    | blank => cases truth
    | sought => cases truth
    | yes => cases same
    | no => cases same

/-- The keys hold: where a key reads the driving field of the lost pair, the column is another one. -/
theorem sameAt_marked {column : Nat} {last : JoinPair} (lost : pair.Lost plan.input.program plan.input.info.pairs)
    (landing : LookupKeys.lastPair? plan.input.program plan.input.info.pairs column = some last) :
    Mark.reading.SameAt (plan.truthAt (pair.column? plan.input.program)) column (plan.soughtDriving pair)
      last.source := by
  obtain ⟨member, landed⟩ := LookupKeys.lastPair?_eq_some landing
  by_cases same : last.source = pair.source
  · have elsewhere : pair.column? plan.input.program ≠ some column := by
      intro here
      exact lost.1 ⟨column, last, here, landing, same⟩
    have source : last.source < plan.input.driving.length := (plan.admissible.pairs last member).1
    have sought : (plan.soughtDriving pair)[last.source]? = some .sought := by
      rw [same] at source ⊢
      exact soughtDriving_source source
    have blank := truthAt_of_ne (column_lt_length member landed) elsewhere
    exact ⟨.blank, blank, .sought, sought, blank_same _⟩
  · have fits := plan.fits_marked pair (pair.column? plan.input.program)
    exact (pairHolds_iff_column fits member landed).1 (pairHolds_of_source_ne fits member same)

theorem source_ne_of_unread (lost : pair.Lost plan.input.program plan.input.info.pairs)
    (unread : plan.keys.reads other.source = false) : other.source ≠ pair.source := by
  intro same
  have fed : plan.keys.reads other.source = true := same ▸ JoinPair.reads_iff_settled.2 lost.2
  rw [unread] at fed
  cases fed

theorem finds_marked (only : plan.PairsOnly)
    (lost : pair.Lost plan.input.program plan.input.info.pairs) :
    plan.Finds Mark.reading (plan.soughtDriving pair) (plan.truthAt (pair.column? plan.input.program)) := by
  refine ⟨?_, fun column key found => ?_, residual_holds_iff.2 fun conjunct member => ?_⟩
  · intro predicate filtered
    rw [only.filter] at filtered
    cases filtered
  · rcases LookupKeys.get?_analyze_eq_some found with ⟨last, landing, rfl⟩ | fixed
    · exact sameAt_marked lost landing
    · rw [only.filter] at fixed
      cases fixed
  · rw [conjuncts_eq, only.conditions, List.flatMap_nil, List.append_nil] at member
    obtain ⟨unread, inside, rfl⟩ := List.mem_map.1 member
    obtain ⟨member, unfed⟩ := mem_unread_iff.1 inside
    have fits := plan.fits_marked pair (pair.column? plan.input.program)
    exact (equality_holds_iff fits member).2
      (pairHolds_of_source_ne fits member (source_ne_of_unread lost unfed))

theorem finds_what_joins_iff_none_lost (only : plan.PairsOnly) :
    (∀ (Value : Type) (reading : Reading Value) (driving raw : List Value), plan.Fits driving raw →
        (plan.Joins reading driving raw ↔ plan.Finds reading driving raw)) ↔
      ∀ pair ∈ plan.input.info.pairs, ¬pair.Lost plan.input.program plan.input.info.pairs := by
  constructor
  · intro same pair member lost
    have finds := finds_marked only lost
    have joins := (same Mark Mark.reading _ _ (fits_marked pair _)).2 finds
    exact not_pairHolds_marked member (joins.pairs pair member)
  · intro kept Value reading driving raw fits
    constructor
    · intro joins
      exact finds_of_joins fits joins
    · intro finds
      refine ⟨finds.filter, fun pair member => ?_, fun condition member => ?_⟩
      · exact pairHolds_of_finds fits finds member (kept pair member)
      · exact condition_holds_of_finds finds member

end LookupJoin.JoinPlan
