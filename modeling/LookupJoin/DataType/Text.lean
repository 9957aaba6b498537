import LookupJoin.DataType
import LookupJoin.Text.Digits
import LookupJoin.Text.Printable
/-!
The written names of types. A structure shows its fields as name and type; every other type shows in
full detail, nested fields with all their attributes, and a structure inside such detail as well.
-/
namespace LookupJoin

def TimeUnit.name : TimeUnit → String
  | .second => "Second"
  | .millisecond => "Millisecond"
  | .microsecond => "Microsecond"
  | .nanosecond => "Nanosecond"

def IntervalUnit.name : IntervalUnit → String
  | .yearMonth => "YearMonth"
  | .dayTime => "DayTime"
  | .monthDayNano => "MonthDayNano"

namespace FlatType

def zoneText : Option String → String
  | none => "None"
  | some zone => "Some(" ++ Text.quoted zone ++ ")"

def name : FlatType → String
  | .null => "Null"
  | .boolean => "Boolean"
  | .int signed width => (if signed then "Int" else "UInt") ++ Text.decimal width.bits
  | .float width => "Float" ++ Text.decimal width.bits
  | .decimal width precision scale =>
    (match width with | .w128 => "Decimal128(" | .w256 => "Decimal256(") ++
      Text.decimal precision.toNat ++ ", " ++ Text.decimalInt scale.toInt ++ ")"
  | .text .standard => "Utf8"
  | .text .large => "LargeUtf8"
  | .text .view => "Utf8View"
  | .binary .standard => "Binary"
  | .binary .large => "LargeBinary"
  | .binary .view => "BinaryView"
  | .fixedSizeBinary size => "FixedSizeBinary(" ++ Text.decimalInt size ++ ")"
  | .date32 => "Date32"
  | .date64 => "Date64"
  | .time32 unit => "Time32(" ++ unit.name ++ ")"
  | .time64 unit => "Time64(" ++ unit.name ++ ")"
  | .timestamp unit zone => "Timestamp(" ++ unit.name ++ ", " ++ zoneText zone ++ ")"
  | .duration unit => "Duration(" ++ unit.name ++ ")"
  | .interval unit => "Interval(" ++ unit.name ++ ")"

end FlatType

namespace DataType

def metadataText (entries : List (String × String)) : String :=
  "\x7b" ++ ", ".intercalate (entries.map fun (key, value) => Text.quoted key ++ ": " ++ Text.quoted value)
    ++ "\x7d"

mutual

def detail : DataType → String
  | .flat type => type.name
  | .list large item => (if large then "LargeList(" else "List(") ++ fieldDetail item ++ ")"
  | .listView large item => (if large then "LargeListView(" else "ListView(") ++ fieldDetail item ++ ")"
  | .fixedSizeList item size => "FixedSizeList(" ++ fieldDetail item ++ ", " ++ Text.decimalInt size ++ ")"
  | .struct fields => "Struct([" ++ ", ".intercalate (fieldDetails fields) ++ "])"
  | .union members sparse =>
    "Union([" ++ ", ".intercalate (memberDetails members) ++ (if sparse then "], Sparse)" else "], Dense)")
  | .map entries sorted => "Map(" ++ fieldDetail entries ++ ", " ++ Text.flag sorted ++ ")"
  | .dictionary key value => "Dictionary(" ++ key.detail ++ ", " ++ value.detail ++ ")"
  | .runEndEncoded runEnds values =>
    "RunEndEncoded(" ++ fieldDetail runEnds ++ ", " ++ fieldDetail values ++ ")"

def fieldDetail : FieldOf DataType → String
  | ⟨name, type, nullable, metadata⟩ =>
    "Field \x7b name: " ++ Text.quoted name ++ ", data_type: " ++ type.detail ++ ", nullable: " ++
      Text.flag nullable ++ ", dict_id: 0, dict_is_ordered: false, metadata: " ++ metadataText metadata ++
      " \x7d"

def fieldDetails : List (FieldOf DataType) → List String
  | [] => []
  | field :: rest => fieldDetail field :: fieldDetails rest

def memberDetail : Int8 × FieldOf DataType → String
  | (tag, field) => "(" ++ Text.decimalInt tag.toInt ++ ", " ++ fieldDetail field ++ ")"

def memberDetails : List (Int8 × FieldOf DataType) → List String
  | [] => []
  | member :: rest => memberDetail member :: memberDetails rest

end

mutual

def name : DataType → String
  | .struct fields => "Struct(" ++ ", ".intercalate (fieldNames fields) ++ ")"
  | type => type.detail

def fieldNames : List (FieldOf DataType) → List String
  | [] => []
  | ⟨name, type, _, _⟩ :: rest => (name ++ " " ++ type.name) :: fieldNames rest

end

end DataType

end LookupJoin
