import LookupJoin.DataType
/-!
Literal values. Each comes in a variant that fixes its type up to parameters, and may be null within
that type. Floating-point numbers are their bits and instants are counts of their unit, so that two
values are the same exactly when they were written the same. The zone of an instant and the declared
size of a byte string are part of their types but not of what they are compared by, and neither are the
names of the fields that the entries of a map consist of.
-/
namespace LookupJoin

inductive Scalar where
  | null
  | boolean (value : Option Bool)
  | int (signed : Bool) (width : IntWidth) (value : Option Int)
  | float (width : FloatWidth) (bits : Option Nat)
  | decimal (width : DecimalWidth) (unscaled : Option Int) (precision : UInt8) (scale : Int8)
  | text (layout : Layout) (value : Option String)
  | binary (layout : Layout) (bytes : Option (List UInt8))
  | fixedSizeBinary (size : Int) (bytes : Option (List UInt8))
  | date32 (days : Option Int)
  | date64 (milliseconds : Option Int)
  | time (unit : TimeUnit) (count : Option Int)
  | timestamp (unit : TimeUnit) (count : Option Int) (zone : Option String)
  | duration (unit : TimeUnit) (count : Option Int)
  | yearMonth (months : Option Int)
  | dayTime (daysAndMilliseconds : Option (Int × Int))
  | monthDayNano (monthsDaysNanoseconds : Option (Int × Int × Int))
  | list (large : Bool) (item : Field) (items : Option (List Scalar))
  | fixedSizeList (item : Field) (size : Int) (items : Option (List Scalar))
  | struct (fields : List Field) (values : Option (List Scalar))
  | map (entries : Field) (sorted : Bool) (items : Option (List (Scalar × Scalar)))
  | union (members : List (Int8 × Field)) (sparse : Bool) (value : Option (Int8 × Scalar))
  | dictionary (key : DataType) (value : Scalar)

namespace Scalar

instance : Inhabited Scalar := ⟨.null⟩

def timeType : TimeUnit → FlatType
  | .second => .time32 .second
  | .millisecond => .time32 .millisecond
  | .microsecond => .time64 .microsecond
  | .nanosecond => .time64 .nanosecond

def type : Scalar → DataType
  | .null => .flat .null
  | .boolean _ => .flat .boolean
  | .int signed width _ => .flat (.int signed width)
  | .float width _ => .flat (.float width)
  | .decimal width _ precision scale => .flat (.decimal width precision scale)
  | .text layout _ => .flat (.text layout)
  | .binary layout _ => .flat (.binary layout)
  | .fixedSizeBinary size _ => .flat (.fixedSizeBinary size)
  | .date32 _ => .flat .date32
  | .date64 _ => .flat .date64
  | .time unit _ => .flat (timeType unit)
  | .timestamp unit _ zone => .flat (.timestamp unit zone)
  | .duration unit _ => .flat (.duration unit)
  | .yearMonth _ => .flat (.interval .yearMonth)
  | .dayTime _ => .flat (.interval .dayTime)
  | .monthDayNano _ => .flat (.interval .monthDayNano)
  | .list large item _ => .list large item
  | .fixedSizeList item size _ => .fixedSizeList item size
  | .struct fields _ => .struct fields
  | .map entries sorted _ => .map entries sorted
  | .union members sparse _ => .union members sparse
  | .dictionary key value => .dictionary key value.type

def isNull : Scalar → Bool
  | .null => true
  | .boolean value => value.isNone
  | .int _ _ value => value.isNone
  | .float _ bits => bits.isNone
  | .decimal _ unscaled _ _ => unscaled.isNone
  | .text _ value => value.isNone
  | .binary _ bytes => bytes.isNone
  | .fixedSizeBinary _ bytes => bytes.isNone
  | .date32 days => days.isNone
  | .date64 milliseconds => milliseconds.isNone
  | .time _ count => count.isNone
  | .timestamp _ count _ => count.isNone
  | .duration _ count => count.isNone
  | .yearMonth months => months.isNone
  | .dayTime parts => parts.isNone
  | .monthDayNano parts => parts.isNone
  | .list _ _ items => items.isNone
  | .fixedSizeList _ _ items => items.isNone
  | .struct _ values => values.isNone
  | .map _ _ items => items.isNone
  | .union _ _ none => true
  | .union _ _ (some (_, value)) => value.isNull
  | .dictionary _ value => value.isNull

/-- Keys and values of one type, nullability and metadata each, whatever they are called. -/
def entriesAlike (entries entries' : Field) : Bool :=
  match entries.type, entries'.type with
  | .struct [key, value], .struct [key', value'] =>
    { key with name := key'.name } = key' && { value with name := value'.name } = value'
  | _, _ => false

mutual

/-- The same variant and the same value; instants compare without their zone, byte strings of fixed
size without that size. -/
def same : Scalar → Scalar → Bool
  | .null, .null => true
  | .boolean v, .boolean w => v = w
  | .int signed width v, .int signed' width' w => signed = signed' && width = width' && v = w
  | .float width v, .float width' w => width = width' && v = w
  | .decimal width v precision scale, .decimal width' w precision' scale' =>
    width = width' && v = w && precision = precision' && scale = scale'
  | .text layout v, .text layout' w => layout = layout' && v = w
  | .binary layout v, .binary layout' w => layout = layout' && v = w
  | .fixedSizeBinary _ v, .fixedSizeBinary _ w => v = w
  | .date32 v, .date32 w => v = w
  | .date64 v, .date64 w => v = w
  | .time unit v, .time unit' w => unit = unit' && v = w
  | .timestamp unit v _, .timestamp unit' w _ => unit = unit' && v = w
  | .duration unit v, .duration unit' w => unit = unit' && v = w
  | .yearMonth v, .yearMonth w => v = w
  | .dayTime v, .dayTime w => v = w
  | .monthDayNano v, .monthDayNano w => v = w
  | .list large item none, .list large' item' none => large = large' && item = item'
  | .list large item (some vs), .list large' item' (some ws) => large = large' && item = item' && sameAll vs ws
  | .fixedSizeList item size none, .fixedSizeList item' size' none => item = item' && size = size'
  | .fixedSizeList item size (some vs), .fixedSizeList item' size' (some ws) =>
    item = item' && size = size' && sameAll vs ws
  | .struct fields none, .struct fields' none => fields = fields'
  | .struct fields (some vs), .struct fields' (some ws) => fields = fields' && sameAll vs ws
  | .map entries sorted none, .map entries' sorted' none => entriesAlike entries entries' && sorted = sorted'
  | .map entries sorted (some vs), .map entries' sorted' (some ws) =>
    entriesAlike entries entries' && sorted = sorted' && sameEntries vs ws
  | .union members sparse none, .union members' sparse' none => members = members' && sparse = sparse'
  | .union members sparse (some (tag, v)), .union members' sparse' (some (tag', w)) =>
    members = members' && sparse = sparse' && tag = tag' && same v w
  | .dictionary key v, .dictionary key' w => key = key' && same v w
  | _, _ => false

def sameAll : List Scalar → List Scalar → Bool
  | [], [] => true
  | v :: vs, w :: ws => same v w && sameAll vs ws
  | _, _ => false

def sameEntries : List (Scalar × Scalar) → List (Scalar × Scalar) → Bool
  | [], [] => true
  | (key, value) :: rest, (key', value') :: rest' => same key key' && same value value' && sameEntries rest rest'
  | _, _ => false

end

end Scalar

end LookupJoin
