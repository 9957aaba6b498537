import LookupJoin.Hint.Duration
import LookupJoin.Proofs.Text.Spelling
/-!
What reading a duration gives. A duration is a numeral and a unit, told by their rules and not by the reader. Main
statements: a text is read exactly when it is a duration whose milliseconds fit a 64-bit word, and as just so many;
any other text is refused; and every such word, written in milliseconds with their unit, is read back.
-/
namespace LookupJoin.Duration

theorem read_eq (text : String) :
    read text =
      (milliseconds? (Text.normalize text).toList).elim (.error (.duration (Text.normalize text))) .ok := by
  delta read
  dsimp only
  cases milliseconds? (Text.normalize text).toList with
  | none => rfl
  | some count => rfl

theorem read_eq_ok_iff {text : String} {n : Nat} :
    read text = .ok n ↔ milliseconds? (Text.normalize text).toList = some n := by
  rw [read_eq]
  cases milliseconds? (Text.normalize text).toList <;> simp

theorem milliseconds?_eq_some_iff {text : List Char} {n : Nat} :
    milliseconds? text = some n ↔
      ∃ count factor, Text.numeral? wordLimit (text.takeWhile Text.isDigit) = some count ∧
        factor? (Text.trim (text.dropWhile Text.isDigit)) = some factor ∧ count * factor < wordLimit ∧
        count * factor = n := by
  simp only [milliseconds?, Option.bind_eq_bind, Option.bind_eq_some_iff, Option.ite_none_right_eq_some,
    Option.some.injEq]
  constructor
  · intro found
    obtain ⟨count, numeral, factor, unit, fits, same⟩ := found
    exact ⟨count, factor, numeral, unit, fits, same⟩
  · intro parts
    obtain ⟨count, factor, numeral, unit, fits, same⟩ := parts
    exact ⟨count, numeral, factor, unit, fits, same⟩

theorem lt_of_read {text : String} {n : Nat} (read : Duration.read text = .ok n) : n < 2 ^ 64 := by
  obtain ⟨_, _, _, _, fits, rfl⟩ := milliseconds?_eq_some_iff.1 (read_eq_ok_iff.1 read)
  exact fits

/-- The milliseconds in a unit, by its word. Milliseconds need none. -/
inductive Measures : String → Nat → Prop
  | bare : Measures "" 1
  | milliseconds : Measures "ms" 1
  | seconds : Measures "s" 1000
  | minutes : Measures "min" 60000
  | hours : Measures "h" 3600000

/-- The text is a duration of so many milliseconds: a numeral, blanks or none, and a unit in any letter case, with
blanks around it all. -/
inductive Lasts : List Char → Nat → Prop
  | intro {row gap word text : List Char} {count factor : Nat} {unit : String}
      (padded : Text.Padded (row ++ (gap ++ word)) text) (numeral : Text.Numeral row count) (blank : Text.Blank gap)
      (spelled : Text.lower word = unit.toList) (measures : Measures unit factor) : Lasts text (count * factor)

theorem factor?_eq_some_iff {word : List Char} {factor : Nat} :
    factor? word = some factor ↔ ∃ unit, word = unit.toList ∧ Measures unit factor := by
  constructor
  · intro found
    unfold factor? at found
    split_ifs at found with milliseconds seconds minutes hours
    · cases found
      rcases milliseconds with rfl | rfl
      · exact ⟨"", rfl, .bare⟩
      · exact ⟨"ms", rfl, .milliseconds⟩
    · cases found
      exact ⟨"s", seconds, .seconds⟩
    · cases found
      exact ⟨"min", minutes, .minutes⟩
    · cases found
      exact ⟨"h", hours, .hours⟩
  · intro measured
    obtain ⟨unit, rfl, measures⟩ := measured
    cases measures <;> decide

theorem Measures.letters {unit : String} {factor : Nat} (measures : Measures unit factor) :
    ∀ c ∈ unit.toList, Text.isDigit c = false ∧ Text.isBlank c = false := by
  have all : unit.toList.all (fun c => !Text.isDigit c && !Text.isBlank c) = true := by
    cases measures <;> decide
  intro c member
  simpa using List.all_eq_true.1 all c member

theorem Measures.letters_of_lower {unit : String} {factor : Nat} {word : List Char} (measures : Measures unit factor)
    (spelled : Text.lower word = unit.toList) : ∀ c ∈ word, Text.isDigit c = false ∧ Text.isBlank c = false := by
  intro c member
  have lowered : c.toLower ∈ unit.toList := spelled ▸ List.mem_map_of_mem member
  rw [← Text.isDigit_toLower, ← Text.isBlank_toLower]
  exact measures.letters c.toLower lowered

section

variable {text row : List Char} {n : Nat}

theorem digits_apart (digits : ∀ c ∈ row, Text.isDigit c = true) (others : ∀ c ∈ text, Text.isDigit c = false) :
    (row ++ text).takeWhile Text.isDigit = row ∧ (row ++ text).dropWhile Text.isDigit = text := by
  rw [List.takeWhile_append_of_pos digits, List.dropWhile_append_of_pos digits]
  cases text with
  | nil => simp
  | cons c more => simp [others c List.mem_cons_self]

theorem lasts_of_milliseconds? (found : milliseconds? (Text.lower (Text.trim text)) = some n) : Lasts text n := by
  obtain ⟨count, factor, number, unit, _, rfl⟩ := milliseconds?_eq_some_iff.1 found
  have digits : Text.isDigit ∘ Char.toLower = Text.isDigit := funext Text.isDigit_toLower
  rw [Text.lower, List.takeWhile_map, digits, ← Text.lower] at number
  rw [Text.lower, List.dropWhile_map, digits, ← Text.lower, Text.trim_lower] at unit
  obtain ⟨numeral, _⟩ := Text.numeral?_eq_some_iff.1 number
  rw [← (Text.lower_eq_iff numeral.low).1 rfl] at numeral
  obtain ⟨word, spelled, measures⟩ := factor?_eq_some_iff.1 unit
  have padded := Text.padded_trim text
  rw [← List.takeWhile_append_dropWhile (l := Text.trim text)] at padded
  obtain ⟨gap, blank, padded⟩ := padded.exists_gap
  exact .intro padded numeral blank spelled measures

theorem Lasts.milliseconds? (lasts : Lasts text n) (fits : n < wordLimit) :
    Duration.milliseconds? (Text.lower (Text.trim text)) = some n := by
  cases lasts with
  | @intro row gap word _ count factor unit padded numeral blank spelled measures =>
  have letters := measures.letters_of_lower spelled
  have others : ∀ c ∈ gap ++ word, Text.isDigit c = false := by
    have blanks : ∀ c ∈ gap, Text.isDigit c = false := fun c member => Text.isDigit_of_isBlank (blank c member)
    exact List.forall_mem_append.2 ⟨blanks, fun c member => (letters c member).1⟩
  -- Trimming takes the gap from the unit, as no letter of a unit is a blank.
  have named : Text.trim (Text.lower (Text.trimRight (gap ++ word))) = unit.toList := by
    rw [Text.trim_lower, Text.trim_trimRight,
      (Text.trim_eq_iff fun c member => (letters c member).2).2 (Text.padded_append blank word), spelled]
  obtain ⟨front, back⟩ := digits_apart numeral.2.1 (Text.isDigit_lower_trimRight others)
  have positive : 0 < factor := by cases measures <;> decide
  -- A unit is at least one millisecond, so the count fits the word when the product does.
  have small : count < wordLimit := lt_of_le_of_lt (Nat.le_mul_of_pos_right count positive) fits
  rw [milliseconds?_eq_some_iff, numeral.lower_trim padded, front, back, named]
  exact ⟨count, factor, Text.numeral?_eq_some_iff.2 ⟨numeral, small⟩,
    factor?_eq_some_iff.2 ⟨unit, rfl, measures⟩, fits, rfl⟩

end

theorem read_eq_ok_iff_lasts {text : String} {n : Nat} : read text = .ok n ↔ Lasts text.toList n ∧ n < 2 ^ 64 := by
  rw [read_eq_ok_iff, Text.toList_normalize]
  constructor
  · intro found
    obtain ⟨_, _, _, _, fits, rfl⟩ := milliseconds?_eq_some_iff.1 found
    exact ⟨lasts_of_milliseconds? found, fits⟩
  · intro parts
    obtain ⟨lasts, fits⟩ := parts
    exact lasts.milliseconds? fits

theorem read_eq_error_iff {text : String} {fault : HintFault} :
    read text = .error fault ↔ fault = .duration (Text.normalize text) ∧ ∀ n, read text ≠ .ok n := by
  rw [read_eq]
  cases milliseconds? (Text.normalize text).toList with
  | none => simp [eq_comm]
  | some count => simp

def written (n : Nat) : String := Text.decimal n ++ "ms"

theorem toList_written (n : Nat) : (written n).toList = Text.digits n ++ ['m', 's'] := by
  rw [written, String.toList_append, Text.decimal, String.toList_ofList]
  rfl

theorem lasts_written (n : Nat) : Lasts (written n).toList n := by
  have lasts : Lasts (Text.digits n ++ ([] ++ ['m', 's'])) (n * 1) :=
    .intro (.refl _) (Text.numeral_digits n) nofun rfl .milliseconds
  rwa [List.nil_append, ← toList_written, Nat.mul_one] at lasts

theorem read_written {n : Nat} (fits : n < 2 ^ 64) : read (written n) = .ok n :=
  read_eq_ok_iff_lasts.2 ⟨lasts_written n, fits⟩

theorem read_iff_lasts (text : String) :
    (∀ n, read text = .ok n ↔ Lasts text.toList n ∧ n < 2 ^ 64) ∧
      (∀ fault, read text = .error fault ↔
        fault = .duration (Text.normalize text) ∧ ¬∃ n, Lasts text.toList n ∧ n < 2 ^ 64) ∧
      ∀ n, read (written n) = .ok n ↔ n < 2 ^ 64 := by
  refine ⟨fun n => read_eq_ok_iff_lasts, fun fault => ?_, fun n => ⟨lt_of_read, read_written⟩⟩
  simp only [read_eq_error_iff, Ne, read_eq_ok_iff_lasts, not_exists]

example : read "\t007 Min " = .ok 420000 ∧ read "5000000000000h" = .ok 18000000000000000000 ∧
    read "+1s" = .error (.duration "+1s") ∧ read "6000000000000h" = .error (.duration "6000000000000h") := by
  decide +kernel

end LookupJoin.Duration
