import LookupJoin.LookupKey.Analysis
import LookupJoin.Residual
/-!
Which key a column has after the analysis of a join. Insertions are read column by column: the last entry
for a column stands. Main statement: the key of a column is the driving field of the last pair that lands
on it, and only without such a pair the literal of the last conjunct that fixes it.
-/
namespace LookupJoin

namespace LookupKeys

def latest (entries : Entries) (column : Nat) : Option LookupKey :=
  (entries.reverse.find? fun entry => entry.1 = column).map Prod.snd

theorem latest_append (first second : Entries) (column : Nat) :
    latest (first ++ second) column = (latest second column).or (latest first column) := by
  simp [latest, Option.map_or]

theorem latest_singleton (entry : Nat × LookupKey) (column : Nat) :
    latest [entry] column = if column = entry.1 then some entry.2 else none := by
  by_cases here : entry.1 = column <;> simp [latest, here, eq_comm]

theorem latest_eq_none_iff {entries : Entries} {column : Nat} :
    latest entries column = none ↔ ∀ entry ∈ entries, entry.1 ≠ column := by
  simp [latest]

theorem mem_of_latest {entries : Entries} {column : Nat} {key : LookupKey}
    (last : latest entries column = some key) : (column, key) ∈ entries := by
  obtain ⟨⟨other, present⟩, found, rfl⟩ := Option.map_eq_some_iff.1 last
  have here : other = column := by simpa using List.find?_some found
  exact here ▸ List.mem_reverse.1 (List.mem_of_find?_eq_some found)

theorem get?_insertAll (keys : LookupKeys) (entries : Entries) (column : Nat) :
    (keys.insertAll entries).get? column = (latest entries column).or (keys.get? column) := by
  induction entries generalizing keys with
  | nil => rfl
  | cons entry rest ih =>
    have step : keys.insertAll (entry :: rest) = (keys.insert entry).insertAll rest := rfl
    rw [step, ih, get?_insert, ← List.singleton_append, latest_append, latest_singleton, Option.or_assoc]
    by_cases here : column = entry.1 <;> simp [here]

theorem get?_ofList (entries : Entries) (column : Nat) :
    (ofList entries).get? column = latest entries column := by
  simp [ofList, get?_insertAll]

theorem find_eq_some_iff {entries : Entries} (ascending : Ascending entries) {column : Nat} {key : LookupKey} :
    find column entries = some key ↔ (column, key) ∈ entries := by
  induction entries with
  | nil => simp [find]
  | cons head rest ih =>
    obtain ⟨other, present⟩ := head
    obtain ⟨above, sorted⟩ := ascending_cons.1 ascending
    by_cases here : column = other
    · subst here
      have fresh : (column, key) ∉ rest := fun member => Nat.lt_irrefl column (above (column, key) member)
      simp [find, fresh, eq_comm]
    · simp [find, here, ih sorted]

theorem get?_eq_some_iff {keys : LookupKeys} {column : Nat} {key : LookupKey} :
    keys.get? column = some key ↔ (column, key) ∈ keys.entries :=
  find_eq_some_iff keys.ascending

theorem latest_entries (keys : LookupKeys) (column : Nat) : latest keys.entries column = keys.get? column := by
  cases last : latest keys.entries column with
  | some key => exact (get?_eq_some_iff.2 (mem_of_latest last)).symm
  | none =>
    cases found : keys.get? column with
    | none => rfl
    | some key => exact absurd rfl (latest_eq_none_iff.1 last _ (get?_eq_some_iff.1 found))

theorem reads_iff {keys : LookupKeys} {source : Nat} :
    keys.reads source = true ↔ ∃ column, keys.get? column = some (.field source) := by
  simp only [reads, List.any_eq_true, decide_eq_true_eq, get?_eq_some_iff]
  constructor
  · rintro ⟨⟨column, key⟩, member, fed⟩
    cases key with
    | constant type value => simp [LookupKey.source?] at fed
    | field other =>
      have same : other = source := by simpa [LookupKey.source?] using fed
      exact ⟨column, same ▸ member⟩
  · rintro ⟨column, member⟩
    exact ⟨(column, .field source), member, rfl⟩

theorem reads_eq_false_iff {keys : LookupKeys} {source : Nat} :
    keys.reads source = false ↔ ∀ column, keys.get? column ≠ some (.field source) := by
  rw [Bool.eq_false_iff, Ne, reads_iff, not_exists]

/-- The last of the pairs that land on the column. -/
def lastPair? (program : Option Calc) (pairs : List JoinPair) (column : Nat) : Option JoinPair :=
  pairs.reverse.find? fun pair => pair.column? program = some column

theorem lastPair?_eq_some {program : Option Calc} {pairs : List JoinPair} {column : Nat} {last : JoinPair}
    (landing : lastPair? program pairs column = some last) :
    last ∈ pairs ∧ last.column? program = some column := by
  have member : last ∈ pairs := List.mem_reverse.1 (List.mem_of_find?_eq_some landing)
  have landed : last.column? program = some column := by simpa using List.find?_some landing
  exact ⟨member, landed⟩

theorem get?_ofPairs (program : Option Calc) (pairs : List JoinPair) (column : Nat) :
    (ofPairs program pairs).get? column =
      (lastPair? program pairs column).map fun pair => .field pair.source := by
  rw [ofPairs, get?_ofList, latest, lastPair?, remap, ← List.map_reverse, ← List.filterMap_reverse]
  induction pairs.reverse with
  | nil => rfl
  | cons pair rest ih =>
    cases landed : pair.column? program with
    | none => simpa [JoinPair.remap?, landed] using ih
    | some other =>
      by_cases here : other = column
      · simp [JoinPair.remap?, landed, here, fieldEntry]
      · simpa [JoinPair.remap?, landed, here, fieldEntry] using ih

theorem constantEntry?_eq_some {expr : Expr} {column : Nat} {key : LookupKey}
    (entry : constantEntry? expr = some (column, key)) :
    ∃ value type literalType result, key = .constant type value ∧
      (expr = .call .eq [.lit value literalType, .ref column type] result ∨
        expr = .call .eq [.ref column type, .lit value literalType] result) := by
  unfold constantEntry? at entry
  split at entry
  next value literalType other type result =>
    cases entry
    exact ⟨value, type, literalType, result, rfl, .inl rfl⟩
  next other type value literalType result =>
    cases entry
    exact ⟨value, type, literalType, result, rfl, .inr rfl⟩
  next => cases entry

theorem get?_ofFilter_some (filter : Expr) (column : Nat) :
    (ofFilter (some filter)).get? column = latest (constantEntries filter) column :=
  get?_ofList _ _

theorem conjunct_of_get?_ofFilter {filter : Option Expr} {column : Nat} {key : LookupKey}
    (found : (ofFilter filter).get? column = some key) :
    ∃ predicate ∈ filter, ∃ conjunct ∈ predicate.conjuncts, constantEntry? conjunct = some (column, key) := by
  cases filter with
  | none => cases found
  | some predicate =>
    rw [get?_ofFilter_some] at found
    obtain ⟨conjunct, member, entry⟩ := List.mem_filterMap.1 (mem_of_latest found)
    exact ⟨predicate, rfl, conjunct, member, entry⟩

theorem get?_ofFilter_ne_field (filter : Option Expr) (column source : Nat) :
    (ofFilter filter).get? column ≠ some (.field source) := by
  intro found
  obtain ⟨_, _, conjunct, _, entry⟩ := conjunct_of_get?_ofFilter found
  obtain ⟨_, _, _, _, constant, _⟩ := constantEntry?_eq_some entry
  cases constant

/-- The key of each column: pairs stand over the filter. -/
theorem get?_analyze (pairs : List JoinPair) (program : Option Calc) (column : Nat) :
    (analyze pairs program).get? column =
      ((lastPair? program pairs column).map fun pair => .field pair.source).or
        ((ofFilter (program.bind Calc.filter)).get? column) := by
  rw [analyze, get?_insertAll, latest_entries, get?_ofPairs]

/-- A key comes from the last pair on its column, or else from the filter. -/
theorem get?_analyze_eq_some {pairs : List JoinPair} {program : Option Calc} {column : Nat} {key : LookupKey}
    (found : (analyze pairs program).get? column = some key) :
    (∃ last, lastPair? program pairs column = some last ∧ key = .field last.source) ∨
      (ofFilter (program.bind Calc.filter)).get? column = some key := by
  rw [get?_analyze, Option.or_eq_some_iff] at found
  rcases found with fed | ⟨_, fixed⟩
  · obtain ⟨last, landing, rfl⟩ := Option.map_eq_some_iff.1 fed
    exact .inl ⟨last, landing, rfl⟩
  · exact .inr fixed

theorem get?_analyze_eq_field_iff {pairs : List JoinPair} {program : Option Calc} {column source : Nat} :
    (analyze pairs program).get? column = some (.field source) ↔
      ∃ pair, lastPair? program pairs column = some pair ∧ pair.source = source := by
  rw [get?_analyze]
  cases lastPair? program pairs column with
  | none => simpa using get?_ofFilter_ne_field _ column source
  | some pair => simp

/-- Some conjunct of the filter fixes the column to a literal. -/
def Fixes (filter : Option Expr) (column : Nat) : Prop :=
  ∃ predicate ∈ filter, ∃ conjunct ∈ predicate.conjuncts, ∃ key, constantEntry? conjunct = some (column, key)

theorem contains_ofFilter_iff {filter : Option Expr} {column : Nat} :
    (ofFilter filter).contains column = true ↔ Fixes filter column := by
  rw [contains, Option.isSome_iff_exists]
  constructor
  · rintro ⟨key, found⟩
    obtain ⟨predicate, filtered, conjunct, member, entry⟩ := conjunct_of_get?_ofFilter found
    exact ⟨predicate, filtered, conjunct, member, key, entry⟩
  · rintro ⟨predicate, rfl, conjunct, member, key, entry⟩
    rw [get?_ofFilter_some, ← Option.ne_none_iff_exists', Ne, latest_eq_none_iff]
    intro absent
    exact absent (column, key) (List.mem_filterMap.2 ⟨conjunct, member, entry⟩) rfl

theorem contains_analyze_iff {pairs : List JoinPair} {program : Option Calc} {column : Nat} :
    (analyze pairs program).contains column = true ↔
      (∃ pair ∈ pairs, pair.column? program = some column) ∨ Fixes (program.bind Calc.filter) column := by
  rw [← contains_ofFilter_iff, contains, contains, get?_analyze, Option.isSome_or, Option.isSome_map,
    Bool.or_eq_true, lastPair?, List.find?_isSome]
  simp

end LookupKeys

end LookupJoin
