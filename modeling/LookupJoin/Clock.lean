import LookupJoin.Calendar
import LookupJoin.DataType
/-!
Times of day and instants. Both are written down to the second, with three, six or nine digits of
its fraction, as few as it needs. An instant counts from the start of 1970 and is written as the date
and the time of day that it falls on.
-/
namespace LookupJoin

namespace TimeUnit

def perSecond : TimeUnit → Nat
  | .second => 1
  | .millisecond => 1000
  | .microsecond => 1000000
  | .nanosecond => 1000000000

def nanoseconds (unit : TimeUnit) : Nat := 1000000000 / unit.perSecond

end TimeUnit

def fractionText (nanoseconds : Nat) : String :=
  if nanoseconds = 0 then ""
  else if nanoseconds % 1000000 = 0 then "." ++ Date.padded 3 (nanoseconds / 1000000)
  else if nanoseconds % 1000 = 0 then "." ++ Date.padded 6 (nanoseconds / 1000)
  else "." ++ Date.padded 9 nanoseconds

structure TimeOfDay where
  seconds : Nat
  nanoseconds : Nat
deriving DecidableEq, Repr

namespace TimeOfDay

/-- The time of day that a count of ticks stands for. Its whole seconds count modulo `2 ^ 32`, as a
counter of that width would show them; a fraction below zero stands for no time of day. -/
def ofTicks? (unit : TimeUnit) (ticks : Int) : Option TimeOfDay :=
  let seconds := (ticks.tdiv unit.perSecond % UInt32.size).toNat
  let fraction := ticks.tmod unit.perSecond
  if seconds < secondsPerDay ∧ 0 ≤ fraction then some ⟨seconds, fraction.toNat * unit.nanoseconds⟩
  else none

def text (time : TimeOfDay) : String :=
  Date.padded 2 (time.seconds / 3600) ++ ":" ++ Date.padded 2 (time.seconds / 60 % 60) ++ ":" ++
    Date.padded 2 (time.seconds % 60) ++ fractionText time.nanoseconds

example : (ofTicks? .millisecond 86399999).map text = some "23:59:59.999" ∧
    ofTicks? .millisecond (-1) = none ∧ ofTicks? .second 86400 = none := by
  decide +kernel

end TimeOfDay

/-- Whole seconds since the start of 1970, and the nanoseconds after those. -/
structure Instant where
  seconds : Int
  nanoseconds : Nat
deriving DecidableEq, Repr

namespace Instant

def ofTicks (unit : TimeUnit) (ticks : Int) : Instant :=
  ⟨ticks.fdiv unit.perSecond, (ticks.fmod unit.perSecond).toNat * unit.nanoseconds⟩

def day (instant : Instant) : Int := instant.seconds.fdiv secondsPerDay

def timeOfDay (instant : Instant) : TimeOfDay :=
  ⟨(instant.seconds.fmod secondsPerDay).toNat, instant.nanoseconds⟩

def ahead (instant : Instant) (offset : Int) : Instant :=
  ⟨instant.seconds + offset, instant.nanoseconds⟩

def text (instant : Instant) : String :=
  (Date.ofDays instant.day).text ++ "T" ++ instant.timeOfDay.text

example : (ofTicks .millisecond (-1)).text = "1969-12-31T23:59:59.999" ∧
    ((ofTicks .second 1).ahead 28800).text = "1970-01-01T08:00:01" := by
  decide +kernel

end Instant

end LookupJoin
