import LookupJoin.Clock
/-!
Lengths of time as text. A length in ticks is written in seconds with the marks of the international
standard. A length in months is written in years and months, and a length of mixed units as the units
that are not zero, down to seconds with a fraction of fixed width.
-/
namespace LookupJoin.Span

def shortFraction (nanoseconds : Nat) : List Char :=
  if nanoseconds = 0 then []
  else '.' :: ((Date.padded 9 nanoseconds).toList.reverse.dropWhile (· = '0')).reverse

/-- Whether a length can be held in milliseconds; finer units always can. -/
def isHeld (unit : TimeUnit) (ticks : Int) : Bool :=
  match unit with
  | .second => ticks.natAbs ≤ 9223372036854775
  | .millisecond => ticks.natAbs ≤ 9223372036854775807
  | .microsecond | .nanosecond => true

def ticksText (unit : TimeUnit) (ticks : Int) : String :=
  if !isHeld unit ticks then "<invalid>"
  else if ticks = 0 then "P0D"
  else
    let size := ticks.natAbs
    (if ticks < 0 then "-PT" else "PT") ++ Text.decimal (size / unit.perSecond) ++
      String.ofList (shortFraction (size % unit.perSecond * unit.nanoseconds)) ++ "S"

def monthsText (months : Int) : String :=
  Text.decimalInt (months.fdiv 12) ++ " years " ++ Text.decimalInt (months.fmod 12) ++ " mons"

def wholePart (unit : String) (count : Int) : List String :=
  if count = 0 then [] else [Text.decimalInt count ++ " " ++ unit]

/-- Hours, minutes and seconds of a count of ticks, all with its sign; `width` digits follow the
point. -/
def clockParts (width : Nat) (ticks : Int) : List String :=
  let size := ticks.natAbs
  let second := Nat.pow 10 width
  let whole := size / second
  let signed (count : Nat) : Int := if ticks < 0 then -count else count
  let seconds :=
    if size % (60 * second) = 0 then []
    else [(if ticks < 0 then "-" else "") ++ Text.decimal (whole % 60) ++ "." ++
      Date.padded width (size % second) ++ " secs"]
  wholePart "hours" (signed (whole / 3600)) ++ wholePart "mins" (signed (whole / 60 % 60)) ++ seconds

def dayTimeText (days milliseconds : Int) : String :=
  " ".intercalate (wholePart "days" days ++ clockParts 3 milliseconds)

def monthDayNanoText (months days nanoseconds : Int) : String :=
  " ".intercalate (wholePart "mons" months ++ wholePart "days" days ++ clockParts 9 nanoseconds)

example : ticksText .second (-5) = "-PT5S" ∧ ticksText .microsecond 120 = "PT0.00012S" ∧
    ticksText .millisecond 0 = "P0D" ∧ monthsText (-13) = "-2 years 11 mons" ∧
    dayTimeText 1 3661001 = "1 days 1 hours 1 mins 1.001 secs" ∧
    monthDayNanoText 0 (-1) (-60000000001) = "-1 days -1 mins -0.000000001 secs" := by
  decide +kernel

end LookupJoin.Span
