import LookupJoin.Number.FloatFormat
import LookupJoin.Text.Digits
import LookupJoin.Text.Blank
/-!
Reading floating-point numbers. A numeral is an optional sign, digits with at most one point, at
least one digit in all, and an optional exponent; the words `inf`, `infinity` and `nan` are read in
any letter case. The result is the pattern nearest to the number written.
-/
namespace LookupJoin

/-- The number `digits * 10 ^ exponent`. -/
structure Decimal where
  digits : Nat
  exponent : Int
deriving DecidableEq, Repr

namespace Decimal

open Text

def exponent? : List Char → Option Int
  | [] => some 0
  | mark :: rest =>
    if mark = 'e' || mark = 'E' then
      match rest with
      | '-' :: row => if isNumeral row then some (-(value row : Int)) else none
      | '+' :: row => if isNumeral row then some (value row) else none
      | row => if isNumeral row then some (value row) else none
    else none

def splitFraction : List Char → List Char × List Char
  | '.' :: rest => (rest.takeWhile isDigit, rest.dropWhile isDigit)
  | rest => ([], rest)

def read? (text : List Char) : Option Decimal :=
  let whole := text.takeWhile isDigit
  let (fraction, rest) := splitFraction (text.dropWhile isDigit)
  if whole.isEmpty && fraction.isEmpty then none
  else (exponent? rest).map fun exponent =>
    ⟨value (whole ++ fraction), exponent - fraction.length⟩

end Decimal

namespace FloatFormat

open Text

/-- The bits nearest to a decimal. Numbers too far out for the format are settled by their order
of magnitude alone. -/
def ofDecimal (format : FloatFormat) (number : Decimal) : Nat :=
  let reach : Int := (1 <<< format.exponentBits : Nat)
  let order := (Text.digits number.digits).length + number.exponent
  if number.digits = 0 then 0
  else if reach < order then format.infinityBits
  else if order < -reach then 0
  else if number.exponent < 0 then format.nearest number.digits (Nat.pow 10 number.exponent.natAbs)
  else format.nearest (number.digits * Nat.pow 10 number.exponent.natAbs) 1

def readMagnitude? (format : FloatFormat) (text : List Char) : Option Nat :=
  let word := String.ofList (lower text)
  if word = "inf" || word = "infinity" then some format.infinityBits
  else if word = "nan" then some format.nanBits
  else (Decimal.read? text).map format.ofDecimal

def read? (format : FloatFormat) : List Char → Option Nat
  | '-' :: rest => (format.readMagnitude? rest).map (format.withSign true)
  | '+' :: rest => format.readMagnitude? rest
  | rest => format.readMagnitude? rest

end FloatFormat

end LookupJoin
