import LookupJoin.DataType.Text
import LookupJoin.Scalar.Number
import LookupJoin.Span
import LookupJoin.Text.Hex
import LookupJoin.Zone
/-!
The items of a list as text, structures, maps and unions among them. A null item is nothing at all. A count
that names no day, no instant or no time of day has no text: the text of the whole list breaks off there and
ends with the reason.
-/
namespace LookupJoin

/-- A count of a type that names no point in time of that type. -/
structure Unnamed where
  count : Int
  type : FlatType
deriving DecidableEq, Repr

def Unnamed.message (unnamed : Unnamed) : String :=
  let target := match unnamed.type with | .timestamp _ _ => "datetime" | _ => "temporal"
  "Cast error: Failed to convert " ++ Text.decimalInt unnamed.count ++ " to " ++ target ++ " for " ++
    unnamed.type.name

namespace Scalar

def hexByte (upper : Bool) (byte : UInt8) : List Char :=
  [Text.hexDigit upper (byte.toNat / 16), Text.hexDigit upper byte.toNat]

def dayItem (type : FlatType) (count day : Int) (written : String) : Except Unnamed String :=
  if Date.isNamed day then .ok written else .error ⟨count, type⟩

def instantItem (type : FlatType) (unit : TimeUnit) (zone : Option String) (count : Int) :
    Except Unnamed String :=
  let instant := Instant.ofTicks unit count
  dayItem type count instant.day <|
    match zone with
    | none => instant.text
    | some name => Zone.text name instant

def timeItem (unit : TimeUnit) (count : Int) : Except Unnamed String :=
  match TimeOfDay.ofTicks? unit count with
  | some clock => .ok clock.text
  | none => .error ⟨count, timeType unit⟩

def givenItem (write : α → Except Unnamed String) (value : Option α) : Except Unnamed String :=
  value.elim (.ok "") write

def itemText : Scalar → Except Unnamed String
  | .null | .list .. | .fixedSizeList .. | .struct .. | .map .. | .union .. | .dictionary .. => .ok ""
  | .boolean value => givenItem (fun flag => .ok (Text.flag flag)) value
  | .int _ _ value => givenItem (fun n => .ok (Text.decimalInt n)) value
  | .float width bits => givenItem (fun pattern => .ok (floatItemText width pattern)) bits
  | .decimal _ unscaled precision scale =>
    givenItem (fun n => .ok (decimalText n precision.toNat scale.toInt)) unscaled
  | .text _ value => givenItem .ok value
  | .binary _ bytes | .fixedSizeBinary _ bytes =>
    givenItem (fun row => .ok (String.ofList (row.flatMap (hexByte false)))) bytes
  | .date32 days => givenItem (fun day => dayItem .date32 day day (Date.ofDays day).text) days
  | .date64 milliseconds => givenItem (instantItem .date64 .millisecond none) milliseconds
  | .time unit count => givenItem (timeItem unit) count
  | .timestamp unit count zone => givenItem (instantItem (.timestamp unit zone) unit zone) count
  | .duration unit count => givenItem (fun ticks => .ok (Span.ticksText unit ticks)) count
  | .yearMonth months => givenItem (fun n => .ok (Span.monthsText n)) months
  | .dayTime parts => givenItem (fun (days, ms) => .ok (Span.dayTimeText days ms)) parts
  | .monthDayNano parts =>
    givenItem (fun (months, days, ns) => .ok (Span.monthDayNanoText months days ns)) parts

mutual

/-- The pieces that the text of an item is made of, brackets and commas among them. -/
def pieces : Scalar → List (Except Unnamed String)
  | .list _ _ none | .fixedSizeList _ _ none | .struct _ none | .map _ _ none | .union _ _ none => []
  | .list _ _ (some items) | .fixedSizeList _ _ (some items) => .ok "[" :: itemPieces items ++ [.ok "]"]
  | .struct fields (some values) => .ok "\x7b" :: memberPieces (fields.map FieldOf.name) values ++ [.ok "\x7d"]
  | .map _ _ (some entries) => .ok "\x7b" :: entryPieces entries ++ [.ok "\x7d"]
  | .union members _ (some (tag, value)) =>
    let name := ((members.lookup tag).map FieldOf.name).getD ""
    .ok ("\x7b" ++ name ++ "=") :: value.pieces ++ [.ok "\x7d"]
  | .dictionary _ value => value.pieces
  | value => [value.itemText]

def itemPieces : List Scalar → List (Except Unnamed String)
  | [] => []
  | [item] => item.pieces
  | item :: next :: rest => item.pieces ++ .ok ", " :: itemPieces (next :: rest)

def memberPieces : List String → List Scalar → List (Except Unnamed String)
  | name :: _, [value] => .ok (name ++ ": ") :: value.pieces
  | name :: names, value :: next :: rest =>
    .ok (name ++ ": ") :: value.pieces ++ .ok ", " :: memberPieces names (next :: rest)
  | _, _ => []

def entryPieces : List (Scalar × Scalar) → List (Except Unnamed String)
  | [] => []
  | [(key, value)] => key.pieces ++ .ok ": " :: value.pieces
  | (key, value) :: next :: rest =>
    key.pieces ++ .ok ": " :: value.pieces ++ .ok ", " :: entryPieces (next :: rest)

end

/-- Joins pieces of text; the first piece that cannot be written is the last one. -/
def joinPieces : List (Except Unnamed String) → String
  | [] => ""
  | .ok piece :: rest => piece ++ joinPieces rest
  | .error unnamed :: _ => "ERROR: " ++ unnamed.message

def alone (value : Scalar) : String := joinPieces value.pieces

end Scalar

end LookupJoin
