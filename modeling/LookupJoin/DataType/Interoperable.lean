import LookupJoin.DataType
/-!
Type families and when one type's values can stand for another's. A type is interoperable with
another when a cast from the first to the second keeps what the value identifies, so that a cast
between them can be looked through. Two types are comparable when an equality between them makes
sense at all; comparability goes both ways.
-/
namespace LookupJoin

/-- Whether values of the first type are cast to the second, which the library decides that casts them. -/
abbrev CastRule := DataType → DataType → Bool

namespace FlatType

def isInt : FlatType → Bool
  | .int _ _ => true
  | _ => false

def isFloat : FlatType → Bool
  | .float _ => true
  | _ => false

def isDecimal : FlatType → Bool
  | .decimal _ _ _ => true
  | _ => false

def isNumeric (type : FlatType) : Bool := type.isInt || type.isFloat || type.isDecimal

def isText : FlatType → Bool
  | .text _ => true
  | _ => false

def isBinary : FlatType → Bool
  | .binary _ | .fixedSizeBinary _ => true
  | _ => false

/-- Integers widen to more bits of the same sign, and unsigned ones to signed ones with room for
the sign. -/
def intWidens (signed : Bool) (width : IntWidth) (signed' : Bool) (width' : IntWidth) : Bool :=
  match signed, signed' with
  | true, true | false, false => width.bits ≤ width'.bits
  | false, true => width.bits < width'.bits
  | true, false => false

def wholeDigits (precision : UInt8) (scale : Int8) : Int16 := precision.toUInt16.toInt16 - scale.toInt16

/-- No place after the point is lost, and none before it. -/
def decimalWidens (precision : UInt8) (scale : Int8) (precision' : UInt8) (scale' : Int8) : Bool :=
  scale ≤ scale' && wholeDigits precision scale ≤ wholeDigits precision' scale'

def widens : FlatType → FlatType → Bool
  | .text _, .text _ => true
  | .binary _, .binary _ => true
  | .binary _, .fixedSizeBinary _ => true
  | .fixedSizeBinary _, .binary _ => true
  | .fixedSizeBinary _, .fixedSizeBinary _ => true
  | .int signed width, .int signed' width' => intWidens signed width signed' width'
  | .float width, .float width' => width.bits ≤ width'.bits
  | .decimal _ precision scale, .decimal _ precision' scale' =>
    decimalWidens precision scale precision' scale'
  | .date32, .date32 | .date32, .date64 | .date64, .date32 | .date64, .date64 => true
  | .timestamp unit _, .timestamp unit' _ => unit = unit'
  | _, _ => false

end FlatType

namespace DataType

def isNull : DataType → Bool
  | .flat .null => true
  | _ => false

def isNumeric : DataType → Bool
  | .flat type => type.isNumeric
  | _ => false

def isText : DataType → Bool
  | .flat type => type.isText
  | _ => false

def isBinary : DataType → Bool
  | .flat type => type.isBinary
  | _ => false

/-- Lists widen as their elements do, whatever the element fields are called. -/
def widens : DataType → DataType → Bool
  | .flat s, .flat t => s.widens t
  | .list large ⟨_, s, _, _⟩, .list large' ⟨_, t, _, _⟩ => large = large' && (s = t || widens s t)
  | _, _ => false

def interoperable (source target : DataType) : Bool := source = target || source.widens target

def comparable (left right : DataType) : Bool :=
  left = right || left.isNull || right.isNull || (left.isNumeric && right.isNumeric) ||
    left.interoperable right || right.interoperable left

theorem interoperable_self (type : DataType) : type.interoperable type = true := by
  simp [interoperable]

theorem comparable_comm (left right : DataType) : left.comparable right = right.comparable left := by
  rw [Bool.eq_iff_iff]
  simp only [comparable, Bool.or_eq_true, Bool.and_eq_true, decide_eq_true_eq]
  constructor <;> rintro (((((same | h) | h) | h) | h) | h) <;> simp_all

end DataType

end LookupJoin
