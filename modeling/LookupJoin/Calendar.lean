import LookupJoin.Text.Digits
/-!
Days and dates of the proleptic Gregorian calendar. Days are counted from 1970-01-01. The calendar
repeats after 400 years, and within 400 years counted from a first of March the leap day is the last
day of its year, so that years and months fall out of divisions.
-/
namespace LookupJoin

def secondsPerDay : Nat := 86400

structure Date where
  year : Int
  month : Nat
  day : Nat
deriving DecidableEq, Repr

namespace Date

def eraDays : Nat := 146097

/-- From 0000-03-01 to 1970-01-01. -/
def epochShift : Int := 719468

def yearOfEra (day : Nat) : Nat := (day - day / 1460 + day / 36524 - day / 146096) / 365

def ofDays (days : Int) : Date :=
  let shifted := days + epochShift
  let era := shifted.fdiv eraDays
  let dayOfEra := (shifted.fmod eraDays).toNat
  let yearInEra := yearOfEra dayOfEra
  let dayOfYear := dayOfEra - (365 * yearInEra + yearInEra / 4 - yearInEra / 100)
  let monthFromMarch := (5 * dayOfYear + 2) / 153
  let month := if monthFromMarch < 10 then monthFromMarch + 3 else monthFromMarch - 9
  ⟨yearInEra + era * 400 + (if month ≤ 2 then 1 else 0), month,
    dayOfYear - (153 * monthFromMarch + 2) / 5 + 1⟩

def toDays (date : Date) : Int :=
  let year := if date.month ≤ 2 then date.year - 1 else date.year
  let yearInEra := year.fmod 400
  let dayOfYear : Int := (153 * ((date.month + 9) % 12) + 2) / 5 + date.day - 1
  year.fdiv 400 * eraDays + (yearInEra * 365 + yearInEra / 4 - yearInEra / 100 + dayOfYear) - epochShift

example : toDays ⟨2000, 2, 29⟩ = 11016 ∧ toDays ⟨1969, 12, 31⟩ = -1 ∧ toDays ⟨-1, 3, 1⟩ = -719834 := by
  decide +kernel

/-- Dates go from the first of January -262143 to the last day of 262142. -/
def isNamed (days : Int) : Bool := -96465292 ≤ days && days ≤ 95026236

example : ofDays (-96465292) = ⟨-262143, 1, 1⟩ ∧ ofDays 95026236 = ⟨262142, 12, 31⟩ := by
  decide +kernel

def padded (width : Nat) (n : Nat) : String :=
  String.ofList ((List.replicate width '0' ++ Text.digits n).drop
    (min width (Text.digits n).length))

/-- Years from 0 to 9999 have four digits; others carry a sign. -/
def text (date : Date) : String :=
  let year :=
    if date.year < 0 then "-" ++ padded 4 date.year.natAbs
    else if date.year ≤ 9999 then padded 4 date.year.natAbs
    else "+" ++ Text.decimal date.year.natAbs
  year ++ "-" ++ padded 2 date.month ++ "-" ++ padded 2 date.day

example : (ofDays 0).text = "1970-01-01" ∧ (ofDays 11016).text = "2000-02-29" ∧
    (ofDays (-719163)).text = "0000-12-31" ∧ (ofDays 2932897).text = "+10000-01-01" := by
  decide +kernel

end Date

end LookupJoin
