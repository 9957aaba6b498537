import LookupJoin.Number.Decimal
import LookupJoin.Number.Shortest
import LookupJoin.Scalar
/-!
Numbers as text. A floating-point number is written in positional notation; as an item of a list, one
in single or double precision has at least one digit after the point, or an exponent. A decimal number
as an item of a list shows no more digits than its type has room for.
-/
namespace LookupJoin

def FloatWidth.format : FloatWidth → FloatFormat
  | .half => .half
  | .single => .single
  | .double => .double

/-- Half-precision numbers show the digits of the same number in single precision. -/
def FloatWidth.text (width : FloatWidth) (bits : Nat) : String :=
  match width with
  | .half => FloatFormat.single.text (FloatFormat.half.convert .single bits)
  | width => width.format.text bits

/-- Reads a number; half precision rounds twice, by way of single precision. -/
def FloatWidth.read? (width : FloatWidth) (text : String) : Option Nat :=
  match width with
  | .half => (FloatFormat.single.read? text.toList).map (FloatFormat.single.convert .half)
  | width => width.format.read? text.toList

namespace Scalar

def floatItemText (width : FloatWidth) (bits : Nat) : String :=
  match width with
  | .half => FloatWidth.half.text bits
  | .single => FloatFormat.single.compactText ⟨13, 6⟩ bits
  | .double => FloatFormat.double.compactText ⟨16, 5⟩ bits

/-- A decimal number from its unscaled value. Of the unscaled value only the first `precision` digits
are written; it is written in full where it has no more digits than belong after the point. -/
def decimalText (unscaled : Int) (precision : Nat) (scale : Int) : String :=
  let row := Text.digits unscaled.natAbs
  let sign := if unscaled < 0 then ['-'] else []
  let kept := sign ++ row.take precision
  let places := scale.natAbs
  String.ofList (
    if scale ≤ 0 then kept ++ List.replicate places '0'
    else if places < row.length then
      kept.take (kept.length - places) ++ '.' :: kept.drop (kept.length - places)
    else sign ++ '0' :: '.' :: List.replicate (places - row.length) '0' ++ row)

example : decimalText 12345 3 1 = "12.3" ∧ decimalText (-12345) 3 (-2) = "-12300" ∧
    decimalText (-123456) 5 5 = "-.12345" ∧ decimalText (-12) 5 4 = "-0.0012" := by
  decide +kernel

end Scalar

end LookupJoin
