import LookupJoin.Number.Decimal
import LookupJoin.Value
/-!
Numbers in JSON. Integers of 64 bits, signed or not, stay integers; every other number becomes one in
double precision, and one beyond its range is refused. The digits of such a number are collected as far
as 64 bits hold them, and the number so collected is multiplied or divided by a power of ten. Each of
these steps rounds to nearest, and the result may be a neighbour of the value nearest to the numeral.
-/
namespace LookupJoin.Json

def wholePart? (text : List Char) : Option (List Char × List Char) :=
  let row := text.takeWhile Text.isDigit
  if row.isEmpty || (row.head? = some '0' && 1 < row.length) then none
  else some (row, text.dropWhile Text.isDigit)

def fractionPart? : List Char → Option (List Char × List Char)
  | '.' :: rest =>
    let row := rest.takeWhile Text.isDigit
    if row.isEmpty then none else some (row, rest.dropWhile Text.isDigit)
  | text => some ([], text)

def exponentSign : List Char → Bool × List Char
  | '-' :: rest => (true, rest)
  | '+' :: rest => (false, rest)
  | text => (false, text)

def exponentPart? : List Char → Option (Option Int × List Char)
  | mark :: rest =>
    if mark = 'e' || mark = 'E' then
      let (negative, rest) := exponentSign rest
      let row := rest.takeWhile Text.isDigit
      let size : Int := Text.value row
      if row.isEmpty then none
      else some (some (if negative then -size else size), rest.dropWhile Text.isDigit)
    else some (none, mark :: rest)
  | [] => some (none, [])

/-- Appends digits to a number of 64 bits until one does not fit, and counts the digits left over. -/
def collect (sum : Nat) : List Char → Nat × Nat
  | [] => (sum, 0)
  | c :: rest =>
    let grown := 10 * sum + Text.digitValue c
    if grown < UInt64.size then collect grown rest else (sum, rest.length + 1)

/-- What is kept of a numeral. Digits left over before the point count as zeros, and the fraction goes
on where the digits before the point stopped. -/
def collected (whole fraction : List Char) (exponent : Int) : Decimal :=
  let (head, dropped) := collect 0 whole
  let (digits, unused) := collect head fraction
  ⟨digits, dropped + exponent - (fraction.length - unused : Nat)⟩

def powerLimit : Nat := 308

def power (exponent : Nat) : Nat := FloatFormat.double.nearest (Nat.pow 10 exponent) 1

/-- Rounds the digits, then their product with or quotient by a power of ten; what is too small for one
power is divided twice, and what is too small for two is zero. -/
def magnitude? (number : Decimal) : Option Nat :=
  let format := FloatFormat.double
  let bits := format.nearest number.digits 1
  let size := number.exponent.natAbs
  if number.digits = 0 then some 0
  else if 0 ≤ number.exponent then
    if powerLimit < size then none
    else
      let result := format.product bits (power size)
      if result = format.infinityBits then none else some result
  else if size ≤ powerLimit then some (format.quotient bits (power size))
  else if size ≤ 2 * powerLimit then
    some (format.quotient (format.quotient bits (power powerLimit)) (power (size - powerLimit)))
  else some 0

example : collect 0 "18446744073709551616".toList = (1844674407370955161, 1) ∧
    magnitude? ⟨38587335773658940, -1⟩ = some 0x432b6afed852d30d ∧ magnitude? ⟨1, 309⟩ = none := by
  decide +kernel

def floatOf? (negative : Bool) (number : Decimal) : Option Value :=
  (magnitude? number).map fun bits => .float (FloatFormat.double.withSign negative bits)

/-- A whole number is an integer as far as 64 bits reach. Zero with a sign is no integer. -/
def integer? (negative : Bool) (row : List Char) : Option Int :=
  let n := Text.value row
  if negative then if 0 < n ∧ n ≤ 1 <<< 63 then some (-(n : Int)) else none
  else if n < UInt64.size then some n else none

def number? (text : List Char) : Option (Value × List Char) := do
  let negative := text.head? = some '-'
  let (whole, rest) ← wholePart? (if negative then text.drop 1 else text)
  let (fraction, rest) ← fractionPart? rest
  let (exponent, rest) ← exponentPart? rest
  let integer := if fraction.isEmpty ∧ exponent.isNone then integer? negative whole else none
  let value ← match integer with
    | some n => some (.int n)
    | none => floatOf? negative (collected whole fraction (exponent.getD 0))
  return (value, rest)

end LookupJoin.Json
