import LookupJoin.Number.FloatFormat
import LookupJoin.Text.Digits
/-!
Writing floating-point numbers: the fewest digits that read back as the same pattern, of those the
nearest to the value, in positional notation or with an exponent for large and small values. Two
digits at the same distance are a tie, which goes up or to the even digit.

A value lies between its neighbours, and the numbers that round to it form an interval around it,
with its ends when the mantissa is even. For one digit, two digits and so on the two points of the
decimal grid next to the value are tried; if any point of a grid is in the interval, one of these is.
-/
namespace LookupJoin

namespace FloatFormat

/-- The numbers that round to a finite value, in quarters of its unit `2 ^ scale`. -/
structure Interval where
  low : Nat
  centre : Nat
  high : Nat
  closed : Bool
deriving DecidableEq, Repr

/-- Below a power of two the next value is only half as far. -/
def interval (format : FloatFormat) (mantissa : Nat) (scale : Int) : Interval :=
  let narrow := mantissa = format.mantissaSpan && format.leastScale < scale
  ⟨4 * mantissa - (if narrow then 1 else 2), 4 * mantissa, 4 * mantissa + 2, mantissa % 2 = 0⟩

def Interval.contains (range : Interval) (step quarter index : Nat) : Bool :=
  if range.closed then
    range.low * quarter ≤ index * step && index * step ≤ range.high * quarter
  else range.low * quarter < index * step && index * step < range.high * quarter

inductive Tie where
  | up | even
deriving DecidableEq, Repr

def Tie.keepsLower (tie : Tie) (lower gap step : Nat) : Bool :=
  2 * gap < step || (2 * gap = step && tie = .even && lower % 2 = 0)

/-- Of the two points of a grid next to the value, the nearer one that lies in the interval. -/
def Interval.gridPoint? (range : Interval) (tie : Tie) (step quarter : Nat) : Option Nat :=
  let below := range.centre * quarter / step
  let gap := range.centre * quarter - below * step
  match range.contains step quarter below, range.contains step quarter (below + 1) with
  | true, true => some (if tie.keepsLower below gap step then below else below + 1)
  | true, false => some below
  | false, true => some (below + 1)
  | false, false => none

def tenPower (exponent : Int) : Nat × Nat :=
  if exponent < 0 then (1, Nat.pow 10 exponent.natAbs) else (Nat.pow 10 exponent.natAbs, 1)

def isBelowTenPower (num den : Nat) (exponent : Int) : Bool :=
  let (tenNum, tenDen) := tenPower exponent
  num * tenDen < tenNum * den

/-- How many places the digits of a positive fraction reach before the point; negative counts the
zeros after it. The power of two below the fraction leaves three counts to choose from. -/
def wholePlaces (num den : Nat) : Int :=
  let estimate := (topScale num den * 30103).fdiv 100000
  if isBelowTenPower num den estimate then estimate
  else if isBelowTenPower num den (estimate + 1) then estimate + 1
  else estimate + 2

/-- The point of the grid with `count` digits, with the power of ten it is counted in; `places` of
the digits stand before the point. -/
def shortestWith? (format : FloatFormat) (tie : Tie) (mantissa : Nat) (scale places : Int)
    (count : Nat) : Option (Nat × Int) :=
  let (tenNum, tenDen) := tenPower (places - count)
  let (twoNum, twoDen) := inUnits 1 1 (2 - scale)
  ((format.interval mantissa scale).gridPoint? tie (tenNum * twoDen) (twoNum * tenDen)).map
    fun point => (point, places - count)

/-- Seventeen digits tell any two values of the formats in use apart. -/
def shortest (format : FloatFormat) (tie : Tie) (mantissa : Nat) (scale : Int) : Nat × Int :=
  let (num, den) := inUnits mantissa 1 (-scale)
  let places := wholePlaces num den
  let point? (count : Nat) := format.shortestWith? tie mantissa scale places (count + 1)
  ((List.range 17).findSome? point?).getD (0, 0)

def stripZeros (digits : Nat) (exponent : Int) : Nat × Int :=
  if digits ≠ 0 ∧ digits % 10 = 0 then stripZeros (digits / 10) (exponent + 1) else (digits, exponent)

def positional (digits : Nat) (exponent : Int) : List Char :=
  let row := Text.digits digits
  if 0 ≤ exponent then row ++ List.replicate exponent.natAbs '0'
  else
    let places := exponent.natAbs
    if places < row.length then row.take (row.length - places) ++ '.' :: row.drop (row.length - places)
    else '0' :: '.' :: List.replicate (places - row.length) '0' ++ row

/-- Where notation with an exponent takes over: above `wholePlaces` digits before the point, and from
`leadingZeros` zeros after it. -/
structure ExponentRule where
  wholePlaces : Int
  leadingZeros : Int
deriving DecidableEq, Repr

def compact (rule : ExponentRule) (digits : Nat) (exponent : Int) : List Char :=
  let row := Text.digits digits
  let places := row.length + exponent
  if places ≤ rule.wholePlaces ∧ 0 ≤ exponent then positional digits exponent ++ ['.', '0']
  else if places ≤ rule.wholePlaces ∧ -rule.leadingZeros < places then positional digits exponent
  else
    let fraction := if row.length = 1 then [] else '.' :: row.drop 1
    row.take 1 ++ fraction ++ 'e' :: (Text.decimalInt (places - 1)).toList

def render (format : FloatFormat) (tie : Tie) (zero : List Char) (write : Nat → Int → List Char)
    (bits : Nat) : String :=
  let signed (negative : Bool) (body : List Char) := String.ofList (if negative then '-' :: body else body)
  match format.decode bits with
  | .nan => "NaN"
  | .infinite negative => signed negative ['i', 'n', 'f']
  | .finite negative mantissa scale =>
    if mantissa = 0 then signed negative zero
    else
      let (digits, exponent) := format.shortest tie mantissa scale
      let (kept, power) := stripZeros digits exponent
      signed negative (write kept power)

def text (format : FloatFormat) (bits : Nat) : String := format.render .up ['0'] positional bits

def compactText (format : FloatFormat) (rule : ExponentRule) (bits : Nat) : String :=
  format.render .even ['0', '.', '0'] (compact rule) bits

example : FloatFormat.single.text 0x4a000001 = "2097152.3" ∧
    FloatFormat.single.compactText ⟨13, 6⟩ 0x4a000001 = "2097152.2" := by
  decide +kernel

end FloatFormat

end LookupJoin
