import LookupJoin.Proofs.Hint.Duration
import LookupJoin.Proofs.Hint.Reading
/-!
Options of a hint in other spellings. A reader of a single option goes by the normal form of its text alone, and only
a fault quotes the text as it was given. Main statement: with blanks around the values or the case of their letters
changed, in any order, options with at most one unknown name give the same hint as before, or the same fault about a
text with the same normal form.
-/
namespace LookupJoin

open Text (Respelled normalize normalize_normalize)

def HintFault.normal : HintFault → HintFault
  | .async text => .async (normalize text)
  | .outputMode text => .outputMode (normalize text)
  | .capacity text => .capacity (normalize text)
  | .duration text => .duration (normalize text)
  | .retryPredicate text => .retryPredicate (normalize text)
  | .retryStrategy text => .retryStrategy (normalize text)
  | .maxAttempts text => .maxAttempts (normalize text)
  | .unknownOption name => .unknownOption name
  | .partialRetry => .partialRetry
  | .otherTable hinted joined => .otherTable hinted joined

/-- The reader goes by the normal form of a text, but for the text that its fault quotes. -/
def Steady {α : Type} (read : String → Except HintFault α) : Prop :=
  ∀ text, (read text).mapError HintFault.normal = read (normalize text)

theorem Steady.eq {α : Type} {read : String → Except HintFault α} {text text' : String} (steady : Steady read)
    (same : normalize text = normalize text') :
    (read text).mapError HintFault.normal = (read text').mapError HintFault.normal := by
  rw [steady, steady, same]

def Quotes (fault : String → HintFault) : Prop := ∀ text, (fault text).normal = fault (normalize text)

theorem OutputMode.steady_read : Steady OutputMode.read := by
  intro text
  rw [read, read, normalize_normalize]
  cases ofWord? (normalize text) <;> rfl

theorem Duration.steady_read : Steady Duration.read := by
  intro text
  rw [read_eq, read_eq, normalize_normalize]
  cases milliseconds? (normalize text).toList with
  | none => exact congrArg Except.error (congrArg HintFault.duration (normalize_normalize text))
  | some count => rfl

namespace JoinHint

def Unknown (options : Options) (name : String) : Prop := options.lookup name ≠ none ∧ name ∉ knownOptions

/-- No more than one, so that the order of the options does not tell which one is reported. -/
def AtMostOneUnknown (options : Options) : Prop :=
  ∀ first second, Unknown options first → Unknown options second → first = second

/-- The same options in any order, all values but the name of the table in some other spelling. -/
structure Respells (options options' : Options) : Prop where
  table : options.lookup "table" = options'.lookup "table"
  others : ∀ name ≠ "table", Option.Rel Respelled (options.lookup name) (options'.lookup name)

theorem rel_respelled_iff {first second : Option String} :
    Option.Rel Respelled first second ↔ first.map normalize = second.map normalize := by
  cases first <;> cases second <;> simp [rel_none_iff, rel_some_iff, Text.normalize_eq_iff]

theorem steady_readAsync : Steady readAsync := by
  intro text
  rw [readAsync, readAsync, normalize_normalize]
  split
  next => rfl
  next => split <;> rfl

theorem steady_readPositive {limit : Nat} {fault : String → HintFault} (quotes : Quotes fault) :
    Steady (readPositive limit fault) := by
  intro text
  rw [readPositive, readPositive, Text.trim_normalize, Text.natural?_lower]
  cases Text.natural? limit (Text.trim text.toList) with
  | none => exact congrArg Except.error (quotes text)
  | some n =>
    dsimp only
    split
    next => rfl
    next => exact congrArg Except.error (quotes text)

theorem steady_expect {word : String} {fault : String → HintFault} (quotes : Quotes fault) :
    Steady (expect word fault) := by
  intro text
  rw [expect, expect, normalize_normalize]
  split
  next => rfl
  next => exact congrArg Except.error (quotes text)

section

variable {options options' : Options} {name : String}

theorem lookup_ne_none_iff : options.lookup name ≠ none ↔ ∃ option ∈ options, option.1 = name := by
  simp only [ne_eq, List.lookup_eq_none_iff, not_forall, exists_prop, bne_iff_ne, not_not, eq_comm (b := name)]

theorem respells_iff :
    Respells options options' ↔ options.lookup "table" = options'.lookup "table" ∧
      ∀ option ∈ options ++ options', option.1 ≠ "table" →
        (options.lookup option.1).map normalize = (options'.lookup option.1).map normalize := by
  constructor
  · intro respells
    exact ⟨respells.table, fun option _ other => rel_respelled_iff.1 (respells.others option.1 other)⟩
  · intro same
    obtain ⟨table, others⟩ := same
    refine ⟨table, fun name other => rel_respelled_iff.2 ?_⟩
    by_cases occurs : ∃ option ∈ options ++ options', option.1 = name
    · obtain ⟨option, listed, rfl⟩ := occurs
      exact others option listed other
    · simp only [List.mem_append, or_and_right, exists_or, not_or, ← lookup_ne_none_iff, not_not] at occurs
      rw [occurs.1, occurs.2]

instance : Decidable (Respells options options') := decidable_of_iff _ respells_iff.symm

theorem atMostOneUnknown_of_known (known : ∀ option ∈ options, option.1 ∈ knownOptions) : AtMostOneUnknown options := by
  intro first _ unknown _
  obtain ⟨option, listed, rfl⟩ := lookup_ne_none_iff.1 unknown.1
  exact absurd (known option listed) unknown.2

theorem checkKnown_eq_error_iff (single : AtMostOneUnknown options) {fault : HintFault} :
    checkKnown options = .error fault ↔ ∃ name, Unknown options name ∧ fault = .unknownOption name := by
  have unknown {option : String × String}
      (found : (options.find? fun option => !knownOptions.contains option.1) = some option) :
      Unknown options option.1 :=
    ⟨lookup_ne_none_iff.2 ⟨option, List.mem_of_find?_eq_some found, rfl⟩, by simpa using List.find?_some found⟩
  unfold checkKnown
  split
  next first found =>
    constructor
    · intro failed
      cases failed
      exact ⟨first.1, unknown found, rfl⟩
    · intro reported
      obtain ⟨name, other, same⟩ := reported
      -- The search may come to any unknown name first, but there is only one.
      rw [same, single _ _ (unknown found) other]
  next none =>
    constructor
    · intro failed
      cases failed
    · intro reported
      obtain ⟨name, ⟨present, strange⟩, _⟩ := reported
      obtain ⟨option, listed, rfl⟩ := lookup_ne_none_iff.1 present
      have known := List.find?_eq_none.1 none option listed
      simp [strange] at known

theorem Respells.unknown_iff (respells : Respells options options') : Unknown options name ↔ Unknown options' name := by
  refine and_congr_left fun strange => ?_
  have other : name ≠ "table" := by
    intro same
    rw [same] at strange
    exact strange (by decide)
  exact (eq_none_iff_of_rel (respells.others name other)).not

theorem Respells.checkKnown_eq (respells : Respells options options') (single : AtMostOneUnknown options) :
    checkKnown options = checkKnown options' := by
  have single' : AtMostOneUnknown options' := fun first second one two =>
    single first second (respells.unknown_iff.2 one) (respells.unknown_iff.2 two)
  have same (fault : HintFault) : checkKnown options = .error fault ↔ checkKnown options' = .error fault := by
    simp only [checkKnown_eq_error_iff single, checkKnown_eq_error_iff single', respells.unknown_iff]
  cases checked : checkKnown options with
  | error fault => exact ((same fault).1 checked).symm
  | ok =>
    cases checked' : checkKnown options' with
    | error fault => exact absurd ((same fault).2 checked') (by simp [checked])
    | ok => rfl

theorem Respells.both (respells : Respells options options') (name : String) (other : name ≠ "table") :
    (options.lookup name = none ∧ options'.lookup name = none) ∨
      ∃ text text', options.lookup name = some text ∧ options'.lookup name = some text' ∧
        normalize text = normalize text' := by
  have related := respells.others name other
  cases absent : options'.lookup name with
  | none =>
    rw [absent] at related
    exact .inl ⟨rel_none_iff.1 related, rfl⟩
  | some text' =>
    rw [absent] at related
    obtain ⟨text, present, respelled⟩ := rel_some_iff.1 related
    exact .inr ⟨text, text', present, rfl, Text.normalize_eq_iff.2 respelled⟩

theorem Respells.given_eq {α : Type} {read : String → Except HintFault α} (respells : Respells options options')
    (other : name ≠ "table") (steady : Steady read) :
    (given options name read).mapError HintFault.normal = (given options' name read).mapError HintFault.normal := by
  rcases respells.both name other with ⟨absent, absent'⟩ | ⟨text, text', present, present', same⟩
  · rw [given, given, absent, absent']
  · rw [given, given, present, present', Outcome.mapError_map, Outcome.mapError_map, steady.eq same]

theorem readRetry_eq {predicate predicate' strategy strategy' delay delay' attempts attempts' : String}
    (miss : normalize predicate = normalize predicate') (fixed : normalize strategy = normalize strategy')
    (read : normalize delay = normalize delay') (counted : normalize attempts = normalize attempts') :
    (readRetry predicate strategy delay attempts).mapError HintFault.normal =
      (readRetry predicate' strategy' delay' attempts').mapError HintFault.normal := by
  refine Outcome.mapError_bind_congr ((steady_expect fun _ => rfl).eq miss) fun _ => ?_
  refine Outcome.mapError_bind_congr ((steady_expect fun _ => rfl).eq fixed) fun _ => ?_
  refine Outcome.mapError_bind_congr (Duration.steady_read.eq read) fun _ => ?_
  exact Outcome.mapError_bind_congr ((steady_readPositive fun _ => rfl).eq counted) fun _ => rfl

theorem Respells.retryOf_eq (respells : Respells options options') :
    (retryOf options).mapError HintFault.normal = (retryOf options').mapError HintFault.normal := by
  unfold retryOf
  rcases respells.both "retry-predicate" (by decide) with
    ⟨predicate, predicate'⟩ | ⟨_, _, predicate, predicate', miss⟩ <;>
  rcases respells.both "retry-strategy" (by decide) with
    ⟨strategy, strategy'⟩ | ⟨_, _, strategy, strategy', fixed⟩ <;>
  rcases respells.both "fixed-delay" (by decide) with ⟨delay, delay'⟩ | ⟨_, _, delay, delay', read⟩ <;>
  rcases respells.both "max-attempts" (by decide) with
    ⟨attempts, attempts'⟩ | ⟨_, _, attempts, attempts', counted⟩ <;>
  rw [predicate, predicate', strategy, strategy', delay, delay', attempts, attempts']
  -- Only a retry with all four of its options is read.
  rw [Outcome.mapError_map, Outcome.mapError_map, readRetry_eq miss fixed read counted]

/-- The outcome of the options goes by the normal forms of their values. -/
theorem Respells.ofOptions_eq (respells : Respells options options') (single : AtMostOneUnknown options) :
    (ofOptions options).mapError HintFault.normal = (ofOptions options').mapError HintFault.normal := by
  refine Outcome.mapError_bind_congr (by rw [respells.checkKnown_eq single]) fun _ => ?_
  refine Outcome.mapError_bind_congr (respells.given_eq (by decide) steady_readAsync) fun _ => ?_
  refine Outcome.mapError_bind_congr (respells.given_eq (by decide) OutputMode.steady_read) fun _ => ?_
  refine Outcome.mapError_bind_congr (respells.given_eq (by decide) (steady_readPositive fun _ => rfl)) fun _ => ?_
  refine Outcome.mapError_bind_congr (respells.given_eq (by decide) Duration.steady_read) fun _ => ?_
  refine Outcome.mapError_bind_congr respells.retryOf_eq fun _ => ?_
  rw [respells.table]

end

end JoinHint

end LookupJoin
