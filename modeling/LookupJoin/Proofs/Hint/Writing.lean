import LookupJoin.Proofs.Hint.Respelling
/-!
Hints in writing. A hint is written with the options that it holds and no others, each in its plain spelling. Main
statements: a hint whose numbers fit their words, without room for nothing and attempts of nothing, is read back from
its options, and no other hint is read from any options; together with what is read, from which options and in which
spellings, this is all there is to the options of a hint.
-/
namespace LookupJoin

open Text (Respelled)

def present (entries : List (String × Option String)) : JoinHint.Options :=
  entries.filterMap fun entry => entry.2.map fun text => (entry.1, text)

section

variable {entries : List (String × Option String)}

theorem names_present_sublist : ((present entries).map Prod.fst).Sublist (entries.map Prod.fst) := by
  induction entries with
  | nil => exact .slnil
  | cons entry rest ih =>
    obtain ⟨name, text⟩ := entry
    cases text with
    | none => exact ih.cons name
    | some text => exact ih.cons_cons name

theorem lookup_present {name : String} {text : Option String} (distinct : (entries.map Prod.fst).Nodup)
    (listed : (name, text) ∈ entries) : (present entries).lookup name = text := by
  induction entries with
  | nil => cases listed
  | cons entry rest ih =>
    obtain ⟨key, value⟩ := entry
    obtain ⟨fresh, others⟩ := List.nodup_cons.1 distinct
    rcases List.mem_cons.1 listed with same | later
    · cases same
      cases text with
      | none =>
        -- The name is left out here, and no later entry has it.
        refine List.lookup_eq_none_iff.2 fun other found => bne_iff_ne.2 fun same => ?_
        rw [same] at fresh
        exact fresh (names_present_sublist.subset (List.mem_map_of_mem found))
      | some text => simp [present]
    · have different : name ≠ key := by
        intro same
        exact fresh (List.mem_map.2 ⟨_, later, same⟩)
      have test : (name == key) = false := beq_eq_false_iff_ne.2 different
      have found := ih others later
      cases value with
      | none => exact found
      | some value => simpa [present, List.lookup_cons, test] using found

end

namespace JoinHint

/-- The options a hint can be written with, with the text of each that it holds. -/
def entries (hint : JoinHint) : List (String × Option String) :=
  [("table", hint.table),
   ("async", hint.async.map Text.flag),
   ("output-mode", hint.outputMode.map OutputMode.word),
   ("capacity", hint.capacity.map Text.decimal),
   ("timeout", hint.timeoutMs.map Duration.written),
   ("retry-predicate", hint.retry.map fun _ => "lookup_miss"),
   ("retry-strategy", hint.retry.map fun _ => "fixed_delay"),
   ("fixed-delay", hint.retry.map fun retry => Duration.written retry.delayMs),
   ("max-attempts", hint.retry.map fun retry => Text.decimal retry.maxAttempts)]

def written (hint : JoinHint) : Options := present hint.entries

/-- Every number fits its word. -/
structure Fits (hint : JoinHint) : Prop where
  capacity : ∀ n ∈ hint.capacity, n < 2 ^ 64
  timeout : ∀ n ∈ hint.timeoutMs, n < 2 ^ 64
  delay : ∀ retry ∈ hint.retry, retry.delayMs < 2 ^ 64
  attempts : ∀ retry ∈ hint.retry, retry.maxAttempts < 2 ^ 32

/-- There is room for something, and a retry is tried. -/
structure Sensible (hint : JoinHint) : Prop where
  capacity : hint.capacity ≠ some 0
  attempts : ∀ retry ∈ hint.retry, retry.maxAttempts ≠ 0

section

variable {hint : JoinHint} {options : Options}

theorem nodup_names_entries (hint : JoinHint) : (hint.entries.map Prod.fst).Nodup := by
  have names : hint.entries.map Prod.fst = knownOptions := rfl
  rw [names]
  decide

theorem nodup_names_written (hint : JoinHint) : (hint.written.map Prod.fst).Nodup :=
  (nodup_names_entries hint).sublist names_present_sublist

theorem rel_lookup_written {α : Type} {relation : String → α → Prop} {name : String} {value : Option α}
    (write : α → String) (entry : (name, value.map write) ∈ hint.entries)
    (each : ∀ result ∈ value, relation (write result) result) :
    Option.Rel relation (hint.written.lookup name) value := by
  rw [written, lookup_present (nodup_names_entries hint) entry]
  exact rel_map_left each

theorem counts_decimal {limit n : Nat} (positive : 0 < n) (fits : n < limit) : Counts limit (Text.decimal n) n :=
  ⟨Text.denotes_decimal n, positive, fits⟩

theorem means_written (fits : hint.Fits) (sensible : hint.Sensible) : Means hint.written hint where
  known option listed := names_present_sublist.subset (List.mem_map_of_mem listed)
  table := lookup_present (nodup_names_entries hint) (by simp [entries])
  async := rel_lookup_written Text.flag (by simp [entries]) fun wanted _ => .refl _
  outputMode := rel_lookup_written OutputMode.word (by simp [entries]) fun mode _ => .refl _
  capacity := by
    refine rel_lookup_written Text.decimal (by simp [entries]) fun n held => ?_
    have positive : n ≠ 0 := by
      intro nothing
      rw [nothing] at held
      exact sensible.capacity held
    exact counts_decimal (Nat.pos_of_ne_zero positive) (fits.capacity n held)
  timeout := rel_lookup_written _ (by simp [entries]) fun n held => Duration.read_written (fits.timeout n held)
  predicate := rel_lookup_written _ (by simp [entries]) fun _ _ => .refl _
  strategy := rel_lookup_written _ (by simp [entries]) fun _ _ => .refl _
  delay := rel_lookup_written _ (by simp [entries]) fun retry held => Duration.read_written (fits.delay retry held)
  attempts := rel_lookup_written _ (by simp [entries]) fun retry held =>
    counts_decimal (Nat.pos_of_ne_zero (sensible.attempts retry held)) (fits.attempts retry held)

theorem Means.fits (means : Means options hint) : hint.Fits where
  capacity n held := by
    obtain ⟨_, _, _, small⟩ := exists_of_mem_rel means.capacity n held
    exact small
  timeout n held := by
    obtain ⟨_, read⟩ := exists_of_mem_rel means.timeout n held
    exact Duration.lt_of_read read
  delay retry held := by
    obtain ⟨_, read⟩ := exists_of_mem_rel means.delay retry held
    exact Duration.lt_of_read read
  attempts retry held := by
    obtain ⟨_, _, _, small⟩ := exists_of_mem_rel means.attempts retry held
    exact small

theorem Means.sensible (means : Means options hint) : hint.Sensible where
  capacity nothing := by
    obtain ⟨_, _, positive, _⟩ := exists_of_mem_rel means.capacity 0 nothing
    exact Nat.lt_irrefl 0 positive
  attempts retry held := by
    obtain ⟨_, _, positive, _⟩ := exists_of_mem_rel means.attempts retry held
    exact Nat.ne_of_gt positive

/-- The hints that come out of options, each name given once. -/
theorem exists_options_iff :
    (∃ options, (options.map Prod.fst).Nodup ∧ ofOptions options = .ok hint) ↔ hint.Fits ∧ hint.Sensible := by
  simp only [ofOptions_eq_ok_iff]
  constructor
  · intro given
    obtain ⟨options, _, means⟩ := given
    exact ⟨means.fits, means.sensible⟩
  · intro conditions
    obtain ⟨fits, sensible⟩ := conditions
    exact ⟨hint.written, nodup_names_written hint, means_written fits sensible⟩

end

theorem ofOptions_reads_exactly :
    (∀ options, (∃ hint, ofOptions options = .ok hint) ↔ WellFormed options) ∧
      (∀ options hint, ofOptions options = .ok hint ↔ Means options hint) ∧
      (∀ options options', AtMostOneUnknown options → Respells options options' →
        (∀ hint, ofOptions options = .ok hint ↔ ofOptions options' = .ok hint) ∧
          (ofOptions options).mapError HintFault.normal = (ofOptions options').mapError HintFault.normal) ∧
      ∀ hint, (∃ options, (options.map Prod.fst).Nodup ∧ ofOptions options = .ok hint) ↔ hint.Fits ∧ hint.Sensible := by
  refine ⟨fun _ => exists_ofOptions_eq_ok_iff, fun _ _ => ofOptions_eq_ok_iff,
    fun options options' single respells => ?_, fun _ => exists_options_iff⟩
  have same := respells.ofOptions_eq single
  refine ⟨fun hint => ?_, same⟩
  have kept (other : Options) :
      ofOptions other = .ok hint ↔ (ofOptions other).mapError HintFault.normal = .ok hint := Outcome.mapError_eq_ok.symm
  rw [kept, kept, same]

def tidy : Options :=
  [("table", "Users"), ("async", "true"), ("capacity", "200"), ("retry-predicate", "lookup_miss"),
   ("retry-strategy", "fixed_delay"), ("fixed-delay", "10s"), ("max-attempts", "3")]

def untidy : Options :=
  [("max-attempts", "3 "), ("retry-strategy", "Fixed_Delay"), ("fixed-delay", " 10S "), ("async", "TRUE\n"),
   ("retry-predicate", "\tLOOKUP_MISS"), ("capacity", " 200"), ("table", "Users")]

theorem ofOptions_reads_exactly_untidy :
    AtMostOneUnknown tidy ∧ Respells tidy untidy ∧
      ofOptions untidy =
        .ok { table := some "Users", async := some true, capacity := some 200, retry := some ⟨10000, 3⟩ } := by
  have single : AtMostOneUnknown tidy := atMostOneUnknown_of_known (by decide)
  have respells : Respells tidy untidy := by decide
  have read : ofOptions tidy =
      .ok { table := some "Users", async := some true, capacity := some 200, retry := some ⟨10000, 3⟩ } := by decide
  obtain ⟨_, _, respelled, _⟩ := ofOptions_reads_exactly
  obtain ⟨same, _⟩ := respelled tidy untidy single respells
  exact ⟨single, respells, (same _).1 read⟩

end JoinHint

end LookupJoin
