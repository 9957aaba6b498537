import LookupJoin.Text.Blank
import LookupJoin.Text.Digits
import Mathlib.Algebra.Group.Nat.Defs
import Mathlib.Data.List.TakeWhile
/-!
Spellings of one word or number. Blanks around a text and the case of its ASCII letters are what trimming and
normalizing take away; a number has further spellings, with leading zeros and with a plus sign. Main statements: two
texts have the same normal form exactly when they are spellings of each other, and a numeral is read as a number
exactly when it is a spelling of that number below the limit.
-/
namespace LookupJoin.Text

def Blank (text : List Char) : Prop := ∀ c ∈ text, isBlank c = true

def Padded (core text : List Char) : Prop :=
  ∃ before after, Blank before ∧ Blank after ∧ text = before ++ core ++ after

section

variable {text core : List Char}

theorem Blank.reverse (blank : Blank text) : Blank text.reverse := fun c member => blank c (List.mem_reverse.1 member)

theorem trimLeft_append {before : List Char} (blank : Blank before) : trimLeft (before ++ text) = trimLeft text :=
  List.dropWhile_append_of_pos blank

theorem trimRight_append {after : List Char} (blank : Blank after) : trimRight (text ++ after) = trimRight text := by
  rw [trimRight, List.reverse_append, List.dropWhile_append_of_pos blank.reverse, trimRight]

theorem exists_eq_append_trimLeft (text : List Char) : ∃ before, Blank before ∧ text = before ++ trimLeft text :=
  ⟨text.takeWhile isBlank, fun _ => List.mem_takeWhile_imp, List.takeWhile_append_dropWhile.symm⟩

theorem exists_eq_trimRight_append (text : List Char) : ∃ after, Blank after ∧ text = trimRight text ++ after := by
  obtain ⟨before, blank, split⟩ := exists_eq_append_trimLeft text.reverse
  refine ⟨before.reverse, blank.reverse, ?_⟩
  have reversed := congrArg List.reverse split
  rwa [List.reverse_reverse, List.reverse_append] at reversed

theorem Padded.refl (core : List Char) : Padded core core := ⟨[], [], nofun, nofun, by simp⟩

theorem padded_append {gap : List Char} (blank : Blank gap) (core : List Char) : Padded core (gap ++ core) :=
  ⟨gap, [], blank, nofun, (List.append_nil _).symm⟩

theorem padded_trim (text : List Char) : Padded (trim text) text := by
  obtain ⟨before, blank, split⟩ := exists_eq_append_trimLeft text
  obtain ⟨after, blank', split'⟩ := exists_eq_trimRight_append (trimLeft text)
  exact ⟨before, after, blank, blank', by rw [List.append_assoc, trim, ← split', ← split]⟩

theorem Padded.trim_eq (padded : Padded core text) : trim text = trim core := by
  obtain ⟨before, after, blank, blank', rfl⟩ := padded
  rw [List.append_assoc, trim, trimLeft_append blank, trim]
  by_cases empty : trimLeft core = []
  · -- Blanks after a blank core are blanks before nothing.
    have all : Blank core := List.dropWhile_eq_nil_iff.1 empty
    have rest : trimLeft after = [] := List.dropWhile_eq_nil_iff.2 blank'
    rw [trimLeft_append all, rest, empty]
  · have kept : trimLeft (core ++ after) = trimLeft core ++ after := by
      rw [trimLeft, List.dropWhile_append, if_neg (by simpa [trimLeft] using empty), trimLeft]
    rw [kept, trimRight_append blank']

theorem trim_trim (text : List Char) : trim (trim text) = trim text := (padded_trim text).trim_eq.symm

theorem trim_trimRight (text : List Char) : trim (trimRight text) = trim text := by
  obtain ⟨after, blank, split⟩ := exists_eq_trimRight_append text
  have padded : Padded (trimRight text) text := ⟨[], after, nofun, blank, split⟩
  exact padded.trim_eq.symm

theorem trimLeft_eq_self (solid : ∀ c ∈ core, isBlank c = false) : trimLeft core = core := by
  cases core with
  | nil => rfl
  | cons c rest => simp [trimLeft, solid c List.mem_cons_self]

theorem trimRight_eq_self (solid : ∀ c ∈ core, isBlank c = false) : trimRight core = core := by
  have reversed : trimLeft core.reverse = core.reverse :=
    trimLeft_eq_self fun c member => solid c (List.mem_reverse.1 member)
  rw [trimLeft] at reversed
  rw [trimRight, reversed, List.reverse_reverse]

/-- A text without blanks is all that trimming leaves of it in its padding. -/
theorem trim_eq_iff (solid : ∀ c ∈ core, isBlank c = false) : trim text = core ↔ Padded core text := by
  constructor
  · intro trimmed
    rw [← trimmed]
    exact padded_trim text
  · intro padded
    rw [padded.trim_eq, trim, trimLeft_eq_self solid, trimRight_eq_self solid]

/-- Blanks inside a text, where a part of it ends, are told apart from the part after them. -/
theorem Padded.exists_gap {row rest : List Char} (padded : Padded (row ++ rest) text) :
    ∃ gap, Blank gap ∧ Padded (row ++ (gap ++ trim rest)) text := by
  obtain ⟨before, after, blank, blank', split⟩ := padded
  obtain ⟨gap, inner, blankGap, blankInner, split'⟩ := padded_trim rest
  refine ⟨gap, blankGap, before, inner ++ after, blank, List.forall_mem_append.2 ⟨blankInner, blank'⟩, ?_⟩
  calc
    text = before ++ (row ++ (gap ++ trim rest ++ inner)) ++ after := by rw [← split', split]
    _ = before ++ (row ++ (gap ++ trim rest)) ++ (inner ++ after) := by simp only [List.append_assoc]

theorem trim_append (nonempty : core ≠ []) (solid : ∀ c ∈ core, isBlank c = false) (text : List Char) :
    trim (core ++ text) = core ++ trimRight text := by
  obtain ⟨c, rest, rfl⟩ := List.exists_cons_of_ne_nil nonempty
  have left : trimLeft (c :: rest ++ text) = c :: rest ++ text := by
    simp [trimLeft, solid c List.mem_cons_self]
  by_cases blank : Blank text
  · have empty : trimRight text = [] := by
      rw [trimRight, List.reverse_eq_nil_iff, List.dropWhile_eq_nil_iff]
      exact blank.reverse
    rw [trim, left, trimRight_append blank, trimRight_eq_self solid, empty, List.append_nil]
  · have kept : ¬(text.reverse.dropWhile isBlank).isEmpty = true := by
      rw [List.isEmpty_iff, List.dropWhile_eq_nil_iff]
      exact fun all => blank fun c member => all c (List.mem_reverse.2 member)
    rw [trim, left, trimRight, List.reverse_append, List.dropWhile_append, if_neg kept, List.reverse_append,
      List.reverse_reverse, trimRight]

end

section

variable {text row : List Char}

theorem toNat_toLower (c : Char) :
    c.toLower.toNat = if 65 ≤ c.toNat ∧ c.toNat ≤ 90 then c.toNat + 32 else c.toNat := by
  have range : c.val ≥ 'A'.val ∧ c.val ≤ 'Z'.val ↔ 65 ≤ c.toNat ∧ c.toNat ≤ 90 := Iff.rfl
  unfold Char.toLower
  split
  next capital =>
    have sum : (c.val + ('a'.val - 'A'.val)).toNat = (c.toNat + 32) % 2 ^ 32 := UInt32.toNat_add ..
    have small := range.1 capital
    rw [if_pos small]
    exact sum.trans (Nat.mod_eq_of_lt (by omega))
  next other => rw [if_neg (range.not.1 other)]

theorem toLower_toLower (c : Char) : c.toLower.toLower = c.toLower := by
  have small : ¬(65 ≤ c.toLower.toNat ∧ c.toLower.toNat ≤ 90) := by
    rw [toNat_toLower]
    split <;> omega
  rw [← Char.toNat_inj, toNat_toLower, if_neg small]

/-- Only a capital letter changes, and not into a character below the capitals. -/
theorem toLower_eq_iff {c other : Char} (low : other.toNat < 65) : c.toLower = other ↔ c = other := by
  rw [← Char.toNat_inj, ← Char.toNat_inj, toNat_toLower]
  split <;> omega

theorem isBlank_toLower (c : Char) : isBlank c.toLower = isBlank c := by
  rw [Bool.eq_iff_iff]
  simp only [isBlank, inRanges, blankRanges, List.any_cons, List.any_nil, Bool.or_eq_true, Bool.and_eq_true,
    decide_eq_true_eq, toNat_toLower]
  split
  · simp
    omega
  · rfl

theorem isDigit_toLower (c : Char) : isDigit c.toLower = isDigit c := by
  rw [Bool.eq_iff_iff]
  simp only [isDigit, Bool.and_eq_true, decide_eq_true_eq, toNat_toLower]
  split
  · simp
    omega
  · rfl

theorem lower_lower (text : List Char) : lower (lower text) = lower text := by
  rw [lower, lower, List.map_map]
  exact List.map_congr_left fun c _ => toLower_toLower c

theorem trimLeft_lower (text : List Char) : trimLeft (lower text) = lower (trimLeft text) := by
  have blanks : isBlank ∘ Char.toLower = isBlank := funext isBlank_toLower
  rw [trimLeft, lower, List.dropWhile_map, blanks, lower, trimLeft]

theorem trim_lower (text : List Char) : trim (lower text) = lower (trim text) := by
  have reversed (row : List Char) : (lower row).reverse = lower row.reverse := by rw [lower, ← List.map_reverse, lower]
  have right (row : List Char) : trimRight (lower row) = lower (trimRight row) := by
    rw [trimRight, reversed, show (lower row.reverse).dropWhile isBlank = lower (row.reverse.dropWhile isBlank) from
      trimLeft_lower row.reverse, reversed, trimRight]
  rw [trim, trimLeft_lower, right, trim]

theorem lower_eq_iff (low : ∀ c ∈ row, c.toNat < 65) : lower text = row ↔ text = row := by
  induction row generalizing text with
  | nil => simp [lower]
  | cons c rest ih =>
    obtain ⟨first, others⟩ := List.forall_mem_cons.1 low
    cases text with
    | nil => simp [lower]
    | cons d more =>
      have tail : lower more = rest ↔ more = rest := ih others
      rw [lower] at tail
      simp [lower, toLower_eq_iff first, tail]

end

/-- The same text, blanks around it and the case of ASCII letters aside. -/
def Respelled (text text' : String) : Prop :=
  ∃ core core', Padded core text.toList ∧ Padded core' text'.toList ∧ lower core = lower core'

theorem normalize_eq_iff {text text' : String} : normalize text = normalize text' ↔ Respelled text text' := by
  rw [normalize, normalize, String.ofList_inj]
  constructor
  · intro same
    exact ⟨_, _, padded_trim _, padded_trim _, same⟩
  · intro respelled
    obtain ⟨core, core', padded, padded', same⟩ := respelled
    calc
      lower (trim text.toList) = trim (lower core) := by rw [padded.trim_eq, trim_lower]
      _ = trim (lower core') := by rw [same]
      _ = lower (trim text'.toList) := by rw [padded'.trim_eq, trim_lower]

theorem Respelled.refl (text : String) : Respelled text text := normalize_eq_iff.1 rfl

theorem normalize_eq_word_iff {text word : String} (normal : normalize word = word) :
    normalize text = word ↔ Respelled text word := by
  rw [← normalize_eq_iff, normal]

theorem toList_normalize (text : String) : (normalize text).toList = lower (trim text.toList) := String.toList_ofList

theorem trim_normalize (text : String) : trim (normalize text).toList = lower (trim text.toList) := by
  rw [toList_normalize, trim_lower, trim_trim]

theorem normalize_normalize (text : String) : normalize (normalize text) = normalize text := by
  rw [normalize, trim_normalize, lower_lower, normalize]

/-- One decimal digit or more with the value, leading zeros allowed. -/
def Numeral (row : List Char) (n : Nat) : Prop := row ≠ [] ∧ (∀ c ∈ row, isDigit c = true) ∧ value row = n

/-- A numeral of the number, with blanks around it and perhaps a plus sign before it. -/
def Denotes (text : String) (n : Nat) : Prop :=
  ∃ row, (Padded row text.toList ∨ Padded ('+' :: row) text.toList) ∧ Numeral row n

theorem numeral_digits (n : Nat) : Numeral (digits n) n :=
  ⟨digits_ne_nil n, List.all_eq_true.1 (all_isDigit_digits n), value_digits n⟩

theorem denotes_decimal (n : Nat) : Denotes (decimal n) n :=
  ⟨digits n, .inl (by rw [decimal, String.toList_ofList]; exact .refl _), numeral_digits n⟩

section

variable {limit n : Nat} {row text : List Char}

theorem Numeral.low (numeral : Numeral row n) : ∀ c ∈ row, c.toNat < 65 := by
  intro c member
  have digit : isDigit c = true := numeral.2.1 c member
  have upper : c.toNat ≤ 57 := by simpa [isDigit] using (Bool.and_eq_true_iff.1 digit).2
  omega

theorem isBlank_of_isDigit {c : Char} (digit : isDigit c = true) : isBlank c = false := by
  have range : 48 ≤ c.toNat ∧ c.toNat ≤ 57 := by simpa [isDigit] using digit
  simp [isBlank, inRanges, blankRanges]
  omega

theorem isDigit_of_isBlank {c : Char} (blank : isBlank c = true) : isDigit c = false := by
  cases digit : isDigit c with
  | false => rfl
  | true => rw [isBlank_of_isDigit digit] at blank; cases blank

theorem Numeral.solid (numeral : Numeral row n) : ∀ c ∈ row, isBlank c = false :=
  fun c member => isBlank_of_isDigit (numeral.2.1 c member)

theorem Numeral.lower_eq (numeral : Numeral row n) : lower row = row := (lower_eq_iff numeral.low).2 rfl

theorem Numeral.lower_trim {rest : List Char} (numeral : Numeral row n) (padded : Padded (row ++ rest) text) :
    lower (trim text) = row ++ lower (trimRight rest) := by
  rw [padded.trim_eq, trim_append numeral.1 numeral.solid, lower, List.map_append, ← lower, ← lower,
    numeral.lower_eq]

theorem isDigit_lower_trimRight (others : ∀ c ∈ text, isDigit c = false) :
    ∀ c ∈ lower (trimRight text), isDigit c = false := by
  intro c member
  obtain ⟨d, kept, rfl⟩ := List.mem_map.1 member
  obtain ⟨after, _, split⟩ := exists_eq_trimRight_append text
  rw [isDigit_toLower]
  exact others d (split ▸ List.mem_append_left after kept)

theorem numeral?_eq_some_iff : numeral? limit row = some n ↔ Numeral row n ∧ n < limit := by
  simp only [numeral?, isNumeral, Numeral, Option.ite_none_right_eq_some, Bool.and_eq_true, Bool.not_eq_true',
    List.isEmpty_eq_false_iff, List.all_eq_true, decide_eq_true_eq, Option.some.injEq]
  constructor
  · intro found
    obtain ⟨⟨⟨nonempty, digits⟩, small⟩, same⟩ := found
    rw [same] at small
    exact ⟨⟨nonempty, digits, same⟩, small⟩
  · intro numeral
    obtain ⟨⟨nonempty, digits, same⟩, small⟩ := numeral
    rw [same]
    exact ⟨⟨⟨nonempty, digits⟩, small⟩, rfl⟩

theorem natural?_eq_some_iff :
    natural? limit text = some n ↔ ∃ row, (text = row ∨ text = '+' :: row) ∧ Numeral row n ∧ n < limit := by
  constructor
  · intro found
    unfold natural? at found
    split at found
    next row => exact ⟨row, .inr rfl, numeral?_eq_some_iff.1 found⟩
    next => exact ⟨text, .inl rfl, numeral?_eq_some_iff.1 found⟩
  · intro numeral
    obtain ⟨row, plain | signed, numeral, small⟩ := numeral
    · rw [plain]
      unfold natural?
      split
      next => exact absurd (numeral.2.1 '+' List.mem_cons_self) (by decide)
      next => exact numeral?_eq_some_iff.2 ⟨numeral, small⟩
    · rw [signed]
      exact numeral?_eq_some_iff.2 ⟨numeral, small⟩

theorem natural?_lower (limit : Nat) (text : List Char) : natural? limit (lower text) = natural? limit text := by
  refine Option.ext fun n => ?_
  rw [natural?_eq_some_iff, natural?_eq_some_iff]
  refine exists_congr fun row => and_congr_left fun ⟨numeral, _⟩ => ?_
  have signed : ∀ c ∈ '+' :: row, c.toNat < 65 := List.forall_mem_cons.2 ⟨by decide, numeral.low⟩
  rw [lower_eq_iff numeral.low, lower_eq_iff signed]

theorem natural?_trim_eq_some_iff {text : String} :
    natural? limit (trim text.toList) = some n ↔ Denotes text n ∧ n < limit := by
  rw [natural?_eq_some_iff, Denotes, ← exists_and_right]
  refine exists_congr fun row => ?_
  rw [and_assoc]
  refine and_congr_left fun ⟨numeral, _⟩ => ?_
  have signed : ∀ c ∈ '+' :: row, isBlank c = false := List.forall_mem_cons.2 ⟨by decide, numeral.solid⟩
  rw [trim_eq_iff numeral.solid, trim_eq_iff signed]

end

end LookupJoin.Text
