/-!
Binary floating-point formats, exactly. A format is a number of mantissa bits and a number of
exponent bits; a floating-point number is its bit pattern, a natural number. `decode` gives the
value as mantissa times a power of two, `nearest` finds the pattern nearest to a fraction, an exact
tie going to the even mantissa; `product` and `quotient` round in the same way.
-/
namespace LookupJoin

structure FloatFormat where
  mantissaBits : Nat
  exponentBits : Nat
deriving DecidableEq, Repr

namespace FloatFormat

def half : FloatFormat := ⟨10, 5⟩
def single : FloatFormat := ⟨23, 8⟩
def double : FloatFormat := ⟨52, 11⟩

/-- What a bit pattern denotes; a finite value is `mantissa * 2 ^ scale`. -/
inductive Decoded where
  | nan
  | infinite (negative : Bool)
  | finite (negative : Bool) (mantissa : Nat) (scale : Int)
deriving DecidableEq, Repr

def mantissaSpan (format : FloatFormat) : Nat := 1 <<< format.mantissaBits

def leastScale (format : FloatFormat) : Int :=
  2 - (1 <<< (format.exponentBits - 1) : Nat) - (format.mantissaBits : Int)

def signWeight (format : FloatFormat) : Nat := 1 <<< (format.mantissaBits + format.exponentBits)

def infinityBits (format : FloatFormat) : Nat := (1 <<< format.exponentBits - 1) * format.mantissaSpan

def nanBits (format : FloatFormat) : Nat := format.infinityBits + format.mantissaSpan / 2

def withSign (format : FloatFormat) (negative : Bool) (magnitude : Nat) : Nat :=
  if negative then format.signWeight + magnitude else magnitude

def decode (format : FloatFormat) (bits : Nat) : Decoded :=
  let negative := format.signWeight ≤ bits
  let magnitude := bits % format.signWeight
  let field := magnitude / format.mantissaSpan
  let fraction := magnitude % format.mantissaSpan
  if field + 1 = 1 <<< format.exponentBits then
    if fraction = 0 then .infinite negative else .nan
  else if field = 0 then .finite negative fraction format.leastScale
  else .finite negative (fraction + format.mantissaSpan) (format.leastScale + field - 1)

/-- The fraction `num / den` in units of `2 ^ scale`, again as a fraction. -/
def inUnits (num den : Nat) (scale : Int) : Nat × Nat :=
  if scale < 0 then (num <<< scale.natAbs, den) else (num, den <<< scale.natAbs)

def roundHalfEven (num den : Nat) : Nat :=
  let floor := num / den
  let rest := num % den
  if 2 * rest < den then floor
  else if den < 2 * rest then floor + 1
  else floor + floor % 2

def topScale (num den : Nat) : Int :=
  let guess : Int := num.log2 - den.log2
  let (scaled, unit) := inUnits num den guess
  if scaled < unit then guess - 1 else guess

/-- The bits of the value nearest to `num / den`; past the largest value they are infinity's. -/
def nearest (format : FloatFormat) (num den : Nat) : Nat :=
  if num = 0 then 0
  else
    let scale := max (topScale num den - format.mantissaBits) format.leastScale
    let (scaled, unit) := inUnits num den scale
    let bits := (scale - format.leastScale).toNat * format.mantissaSpan + roundHalfEven scaled unit
    min bits format.infinityBits

def convert (source target : FloatFormat) (bits : Nat) : Nat :=
  match source.decode bits with
  | .nan => target.withSign (source.signWeight ≤ bits) target.nanBits
  | .infinite negative => target.withSign negative target.infinityBits
  | .finite negative mantissa scale =>
    let (num, den) := inUnits mantissa 1 (-scale)
    target.withSign negative (target.nearest num den)

def fraction (format : FloatFormat) (bits : Nat) : Nat × Nat :=
  match format.decode bits with
  | .finite _ mantissa scale => inUnits mantissa 1 (-scale)
  | _ => (0, 1)

def product (format : FloatFormat) (bits factor : Nat) : Nat :=
  let (num, den) := format.fraction bits
  let (factorNum, factorDen) := format.fraction factor
  format.nearest (num * factorNum) (den * factorDen)

def quotient (format : FloatFormat) (bits divisor : Nat) : Nat :=
  let (num, den) := format.fraction bits
  let (divisorNum, divisorDen) := format.fraction divisor
  format.nearest (num * divisorDen) (den * divisorNum)

/-- Rounds to a natural number below `limit`: a half goes up, and what lies outside goes to the
nearer end. Not-a-number gives zero. -/
def Decoded.toNatural (limit : Nat) : Decoded → Nat
  | .nan => 0
  | .infinite negative => if negative then 0 else limit - 1
  | .finite true _ _ => 0
  | .finite false mantissa scale =>
    let (num, den) := inUnits mantissa 1 (-scale)
    min ((2 * num + den) / (2 * den)) (limit - 1)

def Decoded.isNonzero : Decoded → Bool
  | .finite _ mantissa _ => mantissa ≠ 0
  | _ => true

end FloatFormat

end LookupJoin
