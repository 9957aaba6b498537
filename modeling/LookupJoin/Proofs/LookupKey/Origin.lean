import LookupJoin.Proofs.Expr.Flattening
import LookupJoin.Proofs.Expr.Provenance
import LookupJoin.Proofs.LookupKey.Latest
/-!
Where keys come from. A pair lands on a raw column when the output it compares forwards that column; a conjunct
of the filter binds a column when it is an equality of exactly that column and a literal. Main statement: a
column has the driving field of the last pair that lands on it, only without such a pair the literal of the last
conjunct that binds it, and no key otherwise.
-/
namespace LookupJoin

/-- The item has the property, and no later one has. -/
def IsLast {α : Type} (holds : α → Prop) (items : List α) (item : α) : Prop :=
  ∃ before after, items = before ++ item :: after ∧ holds item ∧ ∀ later ∈ after, ¬holds later

section IsLast

variable {α : Type} {items : List α} {item : α}

theorem IsLast.holds {property : α → Prop} (last : IsLast property items item) : property item := by
  obtain ⟨_, _, _, here, _⟩ := last
  exact here

theorem find?_reverse_eq_some_iff {test : α → Bool} :
    items.reverse.find? test = some item ↔ IsLast (fun item => test item = true) items item := by
  rw [List.find?_eq_some_iff_append]
  constructor
  · intro found
    obtain ⟨passed, after, before, split, failed⟩ := found
    have order : items = before.reverse ++ item :: after.reverse := by
      simpa using congrArg List.reverse split
    refine ⟨before.reverse, after.reverse, order, passed, fun later member => ?_⟩
    simpa using failed later (List.mem_reverse.1 member)
  · intro last
    obtain ⟨before, after, rfl, passed, failed⟩ := last
    have order : (before ++ item :: after).reverse = after.reverse ++ item :: before.reverse := by simp
    refine ⟨passed, after.reverse, before.reverse, order, fun later member => ?_⟩
    simpa using failed later (List.mem_reverse.1 member)

theorem isLast_congr {holds holds' : α → Prop} (same : ∀ item, holds item ↔ holds' item) :
    IsLast holds items item ↔ IsLast holds' items item := by
  have equal : holds = holds' := funext fun item => propext (same item)
  rw [equal]

end IsLast

namespace Expr

/-- An equality of exactly the column and a literal, in either order. -/
inductive Equates (column : Nat) (type : DataType) (value : Scalar) : Expr → Prop
  | columnFirst (literalType result : DataType) :
      Equates column type value (.call .eq [.ref column type, .lit value literalType] result)
  | literalFirst (literalType result : DataType) :
      Equates column type value (.call .eq [.lit value literalType, .ref column type] result)

def Binds (column : Nat) (expr : Expr) : Prop := ∃ type value, expr.Equates column type value

end Expr

/-- The pair compares the raw column, or an output of the calculation that forwards it. -/
def JoinPair.LandsOn (program : Option Calc) (column : Nat) (pair : JoinPair) : Prop :=
  match program with
  | none => pair.target = column
  | some program => ∃ expr, program.projection? pair.target = some expr ∧ expr.Forwards column

theorem JoinPair.column?_eq_some_iff {program : Option Calc} {column : Nat} {pair : JoinPair} :
    pair.column? program = some column ↔ pair.LandsOn program column := by
  cases program with
  | none => simp [column?, LandsOn]
  | some program => simp only [column?, Calc.source?, Option.bind_eq_some_iff, Expr.source?_eq_some_iff, LandsOn]

namespace LookupKeys

variable {pairs : List JoinPair} {program : Option Calc} {column : Nat}

theorem lastPair?_eq_some_iff {pair : JoinPair} :
    lastPair? program pairs column = some pair ↔ IsLast (JoinPair.LandsOn program column) pairs pair := by
  rw [lastPair?, find?_reverse_eq_some_iff]
  exact isLast_congr fun pair => decide_eq_true_iff.trans JoinPair.column?_eq_some_iff

theorem lastPair?_eq_none_iff :
    lastPair? program pairs column = none ↔ ∀ pair ∈ pairs, ¬pair.LandsOn program column := by
  simp [lastPair?, JoinPair.column?_eq_some_iff]

theorem constantEntry?_eq_some_iff {expr : Expr} {key : LookupKey} :
    constantEntry? expr = some (column, key) ↔
      ∃ type value, key = .constant type value ∧ expr.Equates column type value := by
  constructor
  · intro entry
    obtain ⟨value, type, literalType, result, constant, shape⟩ := constantEntry?_eq_some entry
    refine ⟨type, value, constant, ?_⟩
    rcases shape with rfl | rfl
    · exact .literalFirst literalType result
    · exact .columnFirst literalType result
  · intro equates
    obtain ⟨type, value, rfl, shape⟩ := equates
    cases shape with
    | columnFirst => rfl
    | literalFirst => rfl

theorem latest_filterMap_eq_some_iff {α : Type} {give : α → Option (Nat × LookupKey)} {items : List α}
    {key : LookupKey} :
    latest (items.filterMap give) column = some key ↔
      ∃ item, IsLast (fun item => ∃ other, give item = some (column, other)) items item ∧
        give item = some (column, key) := by
  have test (item : α) : ((give item).any fun entry => entry.1 = column) = true ↔
      ∃ other, give item = some (column, other) := by
    cases give item with
    | none => simp
    | some entry => simp [Prod.ext_iff]
  rw [latest, ← List.filterMap_reverse, List.find?_filterMap, Option.map_eq_some_iff]
  simp only [Option.bind_eq_some_iff, find?_reverse_eq_some_iff, isLast_congr test]
  constructor
  · intro found
    obtain ⟨entry, ⟨item, last, given⟩, rfl⟩ := found
    obtain ⟨other, here⟩ := last.holds
    have same : entry = (column, other) := Option.some.inj (given.symm.trans here)
    rw [same]
    exact ⟨item, last, here⟩
  · intro found
    obtain ⟨item, last, given⟩ := found
    exact ⟨(column, key), ⟨item, last, given⟩, rfl⟩

theorem exists_constantEntry?_iff {expr : Expr} :
    (∃ key, constantEntry? expr = some (column, key)) ↔ expr.Binds column := by
  simp only [constantEntry?_eq_some_iff, Expr.Binds]
  constructor
  · intro entry
    obtain ⟨_, type, value, _, shape⟩ := entry
    exact ⟨type, value, shape⟩
  · intro binds
    obtain ⟨type, value, shape⟩ := binds
    exact ⟨.constant type value, type, value, rfl, shape⟩

theorem get?_ofFilter_eq_some_iff {filter : Option Expr} {key : LookupKey} :
    (ofFilter filter).get? column = some key ↔
      ∃ predicate ∈ filter, ∃ conjunct, IsLast (Expr.Binds column) predicate.conjuncts conjunct ∧
        ∃ type value, key = .constant type value ∧ conjunct.Equates column type value := by
  cases filter with
  | none => simp [ofFilter, get?_ofList, latest]
  | some predicate =>
    rw [get?_ofFilter_some, constantEntries, latest_filterMap_eq_some_iff]
    simp only [isLast_congr fun _ => exists_constantEntry?_iff]
    simp only [constantEntry?_eq_some_iff, Option.mem_some_iff, exists_eq_left']

theorem get?_ofFilter_eq_none_iff {filter : Option Expr} :
    (ofFilter filter).get? column = none ↔
      ∀ predicate ∈ filter, ∀ conjunct ∈ predicate.conjuncts, ¬conjunct.Binds column := by
  have fixed : (ofFilter filter).contains column = true ↔ Fixes filter column := contains_ofFilter_iff
  simp only [Fixes, exists_constantEntry?_iff] at fixed
  rw [← Option.not_isSome_iff_eq_none, ← contains, fixed]
  simp only [not_exists, not_and]

/-- What becomes of a column in a join. -/
inductive Origin (pairs : List JoinPair) (program : Option Calc) (column : Nat) : Option LookupKey → Prop
  | pair {pair : JoinPair} (last : IsLast (JoinPair.LandsOn program column) pairs pair) :
      Origin pairs program column (some (.field pair.source))
  | conjunct {predicate conjunct : Expr} {parts : List Expr} {type : DataType} {value : Scalar}
      (unpaired : ∀ pair ∈ pairs, ¬pair.LandsOn program column)
      (filtered : program.bind Calc.filter = some predicate) (flattened : predicate.Flattens parts)
      (last : IsLast (Expr.Binds column) parts conjunct) (equates : conjunct.Equates column type value) :
      Origin pairs program column (some (.constant type value))
  | free (unpaired : ∀ pair ∈ pairs, ¬pair.LandsOn program column)
      (unbound : ∀ predicate ∈ program.bind Calc.filter, ∀ parts, predicate.Flattens parts →
        ∀ conjunct ∈ parts, ¬conjunct.Binds column) :
      Origin pairs program column none

variable {key? : Option LookupKey}

theorem origin_get?_analyze (pairs : List JoinPair) (program : Option Calc) (column : Nat) :
    Origin pairs program column ((analyze pairs program).get? column) := by
  rw [get?_analyze]
  cases landed : lastPair? program pairs column with
  | some pair => exact .pair (lastPair?_eq_some_iff.1 landed)
  | none =>
    have unpaired := lastPair?_eq_none_iff.1 landed
    cases fixed : (ofFilter (program.bind Calc.filter)).get? column with
    | none =>
      refine .free unpaired fun predicate filtered parts flattened => ?_
      rw [Expr.flattens_iff.1 flattened]
      exact get?_ofFilter_eq_none_iff.1 fixed predicate filtered
    | some key =>
      obtain ⟨predicate, filtered, conjunct, last, type, value, rfl, equates⟩ := get?_ofFilter_eq_some_iff.1 fixed
      exact .conjunct unpaired filtered predicate.flattens_conjuncts last equates

theorem Origin.get?_analyze (origin : Origin pairs program column key?) :
    (analyze pairs program).get? column = key? := by
  rw [LookupKeys.get?_analyze]
  cases origin with
  | pair last =>
    rw [lastPair?_eq_some_iff.2 last]
    rfl
  | @conjunct predicate conjunct parts type value unpaired filtered flattened last equates =>
    obtain rfl := Expr.flattens_iff.1 flattened
    -- No pair lands on the column, so what the filter makes of it stays.
    have fixed : (ofFilter (program.bind Calc.filter)).get? column = some (.constant type value) :=
      get?_ofFilter_eq_some_iff.2 ⟨predicate, filtered, conjunct, last, type, value, rfl, equates⟩
    rw [lastPair?_eq_none_iff.2 unpaired, fixed]
    rfl
  | free unpaired unbound =>
    have fixed : (ofFilter (program.bind Calc.filter)).get? column = none :=
      get?_ofFilter_eq_none_iff.2 fun predicate filtered =>
        unbound predicate filtered predicate.conjuncts predicate.flattens_conjuncts
    rw [lastPair?_eq_none_iff.2 unpaired, fixed]
    rfl

theorem analyze_iff_origin (pairs : List JoinPair) (program : Option Calc) (column : Nat) :
    (∀ key?, (analyze pairs program).get? column = key? ↔ Origin pairs program column key?) ∧
      ∀ key, (column, key) ∈ (analyze pairs program).entries ↔ Origin pairs program column (some key) := by
  have each (key? : Option LookupKey) :
      (analyze pairs program).get? column = key? ↔ Origin pairs program column key? := by
    constructor
    · intro found
      exact found ▸ origin_get?_analyze pairs program column
    · intro origin
      exact origin.get?_analyze
  exact ⟨each, fun key => get?_eq_some_iff.symm.trans (each (some key))⟩

def searched : Calc where
  input := [⟨"id", .int32, false, []⟩, ⟨"age", .int32, true, []⟩, ⟨"limit", .int32, true, []⟩]
  columns := [(.call .cast [.ref 2 .int32] .int64, "limit")]
  filter := some <| .call .and [
    .call .and [
      .call .eq [.ref 0 .int32, .lit (.int true .w32 (some 1)) .int32] .boolean,
      .call .or [.call .eq [.ref 1 .int32, .lit (.int true .w32 (some 2)) .int32] .boolean,
        .call .eq [.ref 1 .int32, .lit (.int true .w32 (some 3)) .int32] .boolean] .boolean] .boolean,
    .call .eq [.lit (.int true .w32 (some 4)) .int32, .ref 0 .int32] .boolean,
    .call .eq [.ref 2 .int32, .ref 0 .int32] .boolean] .boolean
  sound := rfl

example : (analyze [⟨5, 0⟩, ⟨6, 0⟩] (some searched)).entries =
    [(0, .constant .int32 (.int true .w32 (some 4))), (2, .field 6)] := rfl

end LookupKeys

end LookupJoin
