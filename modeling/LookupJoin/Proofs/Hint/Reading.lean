import LookupJoin.Hint.Options
import LookupJoin.Proofs.Outcome
import LookupJoin.Proofs.Pairing
import LookupJoin.Proofs.Text.Spelling
/-!
What the options of a hint must be. Each option is read by itself, the four options of a retry as one; words may be
spelled with blanks around them and in any letter case, counts are positive and fit their words. Main statements: a
hint comes out of the options exactly when each field of it is what its option means, missing where the option is,
and some hint comes out exactly when the options are well formed.
-/
namespace LookupJoin

open Text (Respelled Denotes normalize)

/-- The text is a positive number below the limit. -/
def Counts (limit : Nat) (text : String) (n : Nat) : Prop := Denotes text n ∧ 0 < n ∧ n < limit

theorem OutputMode.ofWord?_eq_some_iff {text : String} {mode : OutputMode} :
    ofWord? text = some mode ↔ text = mode.word := by
  constructor
  · intro found
    unfold ofWord? at found
    split at found
    next ordered =>
      cases found
      exact ordered
    next =>
      obtain ⟨unordered, same⟩ := Option.ite_none_right_eq_some.1 found
      cases same
      exact unordered
  · intro same
    rw [same]
    exact ofWord?_word mode

theorem OutputMode.read_eq_ok_iff {text : String} {mode : OutputMode} :
    OutputMode.read text = .ok mode ↔ Respelled text mode.word := by
  have normal : normalize mode.word = mode.word := by cases mode <;> decide
  rw [← Text.normalize_eq_word_iff normal, ← ofWord?_eq_some_iff, read]
  cases ofWord? (normalize text) <;> simp

namespace JoinHint

/-- The hint that the options give: each field holds what its option means, and nothing when there is no such
option. -/
structure Means (options : Options) (hint : JoinHint) : Prop where
  known : ∀ option ∈ options, option.1 ∈ knownOptions
  table : options.lookup "table" = hint.table
  async : Option.Rel (fun text wanted => Respelled text (Text.flag wanted)) (options.lookup "async") hint.async
  outputMode : Option.Rel (fun text mode => Respelled text mode.word) (options.lookup "output-mode") hint.outputMode
  capacity : Option.Rel (Counts (2 ^ 64)) (options.lookup "capacity") hint.capacity
  timeout : Option.Rel (fun text n => Duration.read text = .ok n) (options.lookup "timeout") hint.timeoutMs
  predicate : Option.Rel (fun text _ => Respelled text "lookup_miss") (options.lookup "retry-predicate") hint.retry
  strategy : Option.Rel (fun text _ => Respelled text "fixed_delay") (options.lookup "retry-strategy") hint.retry
  delay : Option.Rel (fun text retry => Duration.read text = .ok retry.delayMs) (options.lookup "fixed-delay")
    hint.retry
  attempts : Option.Rel (fun text retry => Counts (2 ^ 32) text retry.maxAttempts) (options.lookup "max-attempts")
    hint.retry

/-- Options that a hint comes out of. -/
structure WellFormed (options : Options) : Prop where
  known : ∀ option ∈ options, option.1 ∈ knownOptions
  async : ∀ text ∈ options.lookup "async", Respelled text "true" ∨ Respelled text "false"
  outputMode : ∀ text ∈ options.lookup "output-mode", Respelled text "ordered" ∨ Respelled text "allow_unordered"
  capacity : ∀ text ∈ options.lookup "capacity", ∃ n, Counts (2 ^ 64) text n
  timeout : ∀ text ∈ options.lookup "timeout", ∃ n, Duration.read text = .ok n
  predicate : ∀ text ∈ options.lookup "retry-predicate", Respelled text "lookup_miss"
  strategy : ∀ text ∈ options.lookup "retry-strategy", Respelled text "fixed_delay"
  delay : ∀ text ∈ options.lookup "fixed-delay", ∃ n, Duration.read text = .ok n
  attempts : ∀ text ∈ options.lookup "max-attempts", ∃ n, Counts (2 ^ 32) text n
  together : (∀ name ∈ retryOptions, options.lookup name ≠ none) ∨ ∀ name ∈ retryOptions, options.lookup name = none

section

variable {options : Options} {text word : String} {fault : String → HintFault}

theorem checkKnown_eq_ok_iff : checkKnown options = .ok () ↔ ∀ option ∈ options, option.1 ∈ knownOptions := by
  have passed :
      checkKnown options = .ok () ↔ (options.find? fun option => !knownOptions.contains option.1) = none := by
    rw [checkKnown]
    cases options.find? fun option => !knownOptions.contains option.1 <;> simp
  rw [passed, List.find?_eq_none]
  simp

theorem readAsync_eq_ok_iff {wanted : Bool} : readAsync text = .ok wanted ↔ Respelled text (Text.flag wanted) := by
  have normal : normalize (Text.flag wanted) = Text.flag wanted := by cases wanted <;> decide
  rw [← Text.normalize_eq_word_iff normal, readAsync]
  cases wanted with
  | true => grind [Text.flag]
  | false => grind [Text.flag]

theorem readPositive_eq_ok_iff {limit n : Nat} : readPositive limit fault text = .ok n ↔ Counts limit text n := by
  have counted : readPositive limit fault text = .ok n ↔
      Text.natural? limit (Text.trim text.toList) = some n ∧ 0 < n := by
    rw [readPositive]
    cases Text.natural? limit (Text.trim text.toList) <;> grind
  rw [counted, Text.natural?_trim_eq_some_iff, Counts, and_assoc, and_comm (a := n < limit)]

theorem expect_eq_ok_iff (normal : normalize word = word) :
    expect word fault text = .ok () ↔ Respelled text word := by
  rw [← Text.normalize_eq_word_iff normal, expect]
  split <;> simp_all

theorem given_eq_ok_iff {α : Type} {name : String} {read : String → Except HintFault α} {value : Option α} :
    given options name read = .ok value ↔
      Option.Rel (fun text result => read text = .ok result) (options.lookup name) value := by
  rw [given]
  cases options.lookup name with
  | none => cases value <;> simp [rel_none_iff, rel_some_iff]
  | some text => cases value <;> simp [rel_none_iff, rel_some_iff, Outcome.map_eq_ok]

theorem readRetry_eq_ok_iff {predicate strategy delay attempts : String} {retry : Retry} :
    readRetry predicate strategy delay attempts = .ok retry ↔
      Respelled predicate "lookup_miss" ∧ Respelled strategy "fixed_delay" ∧
        Duration.read delay = .ok retry.delayMs ∧ Counts (2 ^ 32) attempts retry.maxAttempts := by
  have miss : normalize "lookup_miss" = "lookup_miss" := by decide
  have fixed : normalize "fixed_delay" = "fixed_delay" := by decide
  rw [readRetry, Outcome.bind_unit_eq_ok, expect_eq_ok_iff miss, Outcome.bind_unit_eq_ok, expect_eq_ok_iff fixed]
  refine and_congr_right fun _ => and_congr_right fun _ => ?_
  simp only [Outcome.bind_eq_ok, readPositive_eq_ok_iff, pure, Except.pure, Except.ok.injEq]
  constructor
  · intro succeeded
    obtain ⟨delayMs, read, maxAttempts, counted, rfl⟩ := succeeded
    exact ⟨read, counted⟩
  · intro parts
    obtain ⟨read, counted⟩ := parts
    exact ⟨_, read, _, counted, rfl⟩

theorem retryOf_eq_ok_iff {retry : Option Retry} :
    retryOf options = .ok retry ↔
      Option.Rel (fun text _ => Respelled text "lookup_miss") (options.lookup "retry-predicate") retry ∧
      Option.Rel (fun text _ => Respelled text "fixed_delay") (options.lookup "retry-strategy") retry ∧
      Option.Rel (fun text made => Duration.read text = .ok made.delayMs) (options.lookup "fixed-delay") retry ∧
      Option.Rel (fun text made => Counts (2 ^ 32) text made.maxAttempts) (options.lookup "max-attempts") retry := by
  constructor
  · intro succeeded
    unfold retryOf at succeeded
    split at succeeded
    next predicate strategy delay attempts =>
      cases succeeded
      rw [predicate, strategy, delay, attempts]
      exact ⟨.none, .none, .none, .none⟩
    next predicate strategy delay attempts =>
      obtain ⟨made, read, rfl⟩ := Outcome.map_eq_ok.1 succeeded
      obtain ⟨miss, fixed, read, counted⟩ := readRetry_eq_ok_iff.1 read
      rw [predicate, strategy, delay, attempts]
      exact ⟨.some miss, .some fixed, .some read, .some counted⟩
    next => cases succeeded
  · intro given
    obtain ⟨predicate, strategy, delay, attempts⟩ := given
    unfold retryOf
    cases retry with
    | none =>
      rw [rel_none_iff.1 predicate, rel_none_iff.1 strategy, rel_none_iff.1 delay, rel_none_iff.1 attempts]
    | some made =>
      obtain ⟨_, predicate, miss⟩ := rel_some_iff.1 predicate
      obtain ⟨_, strategy, fixed⟩ := rel_some_iff.1 strategy
      obtain ⟨_, delay, read⟩ := rel_some_iff.1 delay
      obtain ⟨_, attempts, counted⟩ := rel_some_iff.1 attempts
      rw [predicate, strategy, delay, attempts]
      exact Outcome.map_eq_ok.2 ⟨made, readRetry_eq_ok_iff.2 ⟨miss, fixed, read, counted⟩, rfl⟩

theorem ofOptions_eq_ok_iff {hint : JoinHint} : ofOptions options = .ok hint ↔ Means options hint := by
  rw [ofOptions, Outcome.bind_unit_eq_ok, checkKnown_eq_ok_iff]
  simp only [Outcome.bind_eq_ok, given_eq_ok_iff, readAsync_eq_ok_iff, OutputMode.read_eq_ok_iff,
    readPositive_eq_ok_iff, retryOf_eq_ok_iff, pure, Except.pure, Except.ok.injEq]
  constructor
  · intro succeeded
    obtain ⟨known, _, async, _, mode, _, capacity, _, timeout, _, ⟨miss, fixed, delay, attempts⟩, rfl⟩ := succeeded
    exact ⟨known, rfl, async, mode, capacity, timeout, miss, fixed, delay, attempts⟩
  · intro means
    refine ⟨means.known, _, means.async, _, means.outputMode, _, means.capacity, _, means.timeout, _,
      ⟨means.predicate, means.strategy, means.delay, means.attempts⟩, ?_⟩
    rw [means.table]

theorem Means.wellFormed {hint : JoinHint} (means : Means options hint) : WellFormed options where
  known := means.known
  async text present := by
    obtain ⟨wanted, spelled⟩ := exists_rel_iff.1 ⟨_, means.async⟩ text present
    cases wanted with
    | true => exact .inl spelled
    | false => exact .inr spelled
  outputMode text present := by
    obtain ⟨mode, spelled⟩ := exists_rel_iff.1 ⟨_, means.outputMode⟩ text present
    cases mode with
    | ordered => exact .inl spelled
    | allowUnordered => exact .inr spelled
  capacity := exists_rel_iff.1 ⟨_, means.capacity⟩
  timeout := exists_rel_iff.1 ⟨_, means.timeout⟩
  predicate text present := by
    obtain ⟨_, spelled⟩ := exists_rel_iff.1 ⟨_, means.predicate⟩ text present
    exact spelled
  strategy text present := by
    obtain ⟨_, spelled⟩ := exists_rel_iff.1 ⟨_, means.strategy⟩ text present
    exact spelled
  delay text present := by
    obtain ⟨retry, read⟩ := exists_rel_iff.1 ⟨_, means.delay⟩ text present
    exact ⟨retry.delayMs, read⟩
  attempts text present := by
    obtain ⟨retry, counted⟩ := exists_rel_iff.1 ⟨_, means.attempts⟩ text present
    exact ⟨retry.maxAttempts, counted⟩
  together := by
    -- Each option of a retry is there exactly when the hint has one, so all four are or none is.
    have same : ∀ name ∈ retryOptions, options.lookup name = none ↔ hint.retry = none := by
      simp only [retryOptions, List.forall_mem_cons]
      exact ⟨eq_none_iff_of_rel means.predicate, eq_none_iff_of_rel means.strategy, eq_none_iff_of_rel means.delay,
        eq_none_iff_of_rel means.attempts, nofun⟩
    by_cases without : hint.retry = none
    · exact .inr fun name member => (same name member).2 without
    · exact .inl fun name member => (same name member).not.2 without

theorem WellFormed.exists_retryOf_eq_ok (formed : WellFormed options) : ∃ retry, retryOf options = .ok retry := by
  simp only [retryOf_eq_ok_iff]
  rcases formed.together with all | none
  · have present (name : String) (member : name ∈ retryOptions) : ∃ text, options.lookup name = some text :=
      Option.ne_none_iff_exists'.1 (all name member)
    obtain ⟨_, predicate⟩ := present "retry-predicate" (by decide)
    obtain ⟨_, strategy⟩ := present "retry-strategy" (by decide)
    obtain ⟨delay, given⟩ := present "fixed-delay" (by decide)
    obtain ⟨attempts, given'⟩ := present "max-attempts" (by decide)
    have miss := formed.predicate _ predicate
    have fixed := formed.strategy _ strategy
    obtain ⟨delayMs, read⟩ := formed.delay delay given
    obtain ⟨maxAttempts, counted⟩ := formed.attempts attempts given'
    rw [predicate, strategy, given, given']
    exact ⟨some ⟨delayMs, maxAttempts⟩, .some miss, .some fixed, .some read, .some counted⟩
  · have absent (name : String) (member : name ∈ retryOptions) : options.lookup name = .none := none name member
    rw [absent "retry-predicate" (by decide), absent "retry-strategy" (by decide), absent "fixed-delay" (by decide),
      absent "max-attempts" (by decide)]
    exact ⟨.none, .none, .none, .none, .none⟩

theorem exists_ofOptions_eq_ok_iff : (∃ hint, ofOptions options = .ok hint) ↔ WellFormed options := by
  simp only [ofOptions_eq_ok_iff]
  constructor
  · intro given
    obtain ⟨hint, means⟩ := given
    exact means.wellFormed
  · intro formed
    have asked : ∀ text ∈ options.lookup "async", ∃ wanted, Respelled text (Text.flag wanted) := fun text present =>
      (formed.async text present).elim (fun spelled => ⟨true, spelled⟩) fun spelled => ⟨false, spelled⟩
    have ordered : ∀ text ∈ options.lookup "output-mode", ∃ mode : OutputMode, Respelled text mode.word :=
      fun text present => (formed.outputMode text present).elim (fun spelled => ⟨.ordered, spelled⟩)
        fun spelled => ⟨.allowUnordered, spelled⟩
    obtain ⟨async, asked⟩ := exists_rel_iff.2 asked
    obtain ⟨outputMode, ordered⟩ := exists_rel_iff.2 ordered
    obtain ⟨capacity, counted⟩ := exists_rel_iff.2 formed.capacity
    obtain ⟨timeoutMs, read⟩ := exists_rel_iff.2 formed.timeout
    obtain ⟨retry, repeated⟩ := formed.exists_retryOf_eq_ok
    obtain ⟨miss, fixed, delay, attempts⟩ := retryOf_eq_ok_iff.1 repeated
    exact ⟨⟨options.lookup "table", async, outputMode, capacity, timeoutMs, retry⟩, formed.known, rfl, asked, ordered,
      counted, read, miss, fixed, delay, attempts⟩

end

end JoinHint

end LookupJoin
