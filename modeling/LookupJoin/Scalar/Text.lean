import LookupJoin.Scalar.Item
/-!
Literals as text. `sql` writes a literal as a query would: a null is the word, a text stands in
single quotes with each quote inside it doubled, and any other value shows as `plain` has it.
-/
namespace LookupJoin

namespace Scalar

def doubleQuotes : List Char → List Char
  | [] => []
  | c :: rest => if c = '\'' then '\'' :: '\'' :: doubleQuotes rest else c :: doubleQuotes rest

def quoteSql (text : List Char) : List Char := '\'' :: doubleQuotes text ++ ['\'']

def bytesText (bytes : List UInt8) : String :=
  String.ofList ((bytes.take 10).flatMap (hexByte true)) ++ (if 10 < bytes.length then "..." else "")

def millisecondsPerDay : Int := 86400000

def dayOfMilliseconds (milliseconds : Int) : Int := milliseconds.tdiv millisecondsPerDay

def dayText (day : Int) : String := if Date.isNamed day then (Date.ofDays day).text else ""

def orElse (missing : String) (write : α → String) (value : Option α) : String :=
  (value.map write).getD missing

def dayTimeText (days milliseconds : Int) : String :=
  "IntervalDayTime \x7b days: " ++ Text.decimalInt days ++ ", milliseconds: " ++
    Text.decimalInt milliseconds ++ " \x7d"

def monthDayNanoText (months days nanoseconds : Int) : String :=
  "IntervalMonthDayNano \x7b months: " ++ Text.decimalInt months ++ ", days: " ++
    Text.decimalInt days ++ ", nanoseconds: " ++ Text.decimalInt nanoseconds ++ " \x7d"

def mapText (entries : List (Scalar × Scalar)) : String :=
  "[\x7b" ++ ",".intercalate (entries.map fun entry => entry.1.alone ++ ":" ++ entry.2.alone) ++ "\x7d]"

mutual

def plain : Scalar → String
  | .null => "NULL"
  | .boolean value => orElse "NULL" Text.flag value
  | .int _ _ value | .time _ value | .timestamp _ value _ | .duration _ value | .yearMonth value =>
    orElse "NULL" Text.decimalInt value
  | .float width bits => orElse "NULL" width.text bits
  | .decimal _ unscaled precision scale =>
    orElse "None" (fun v => "Some(" ++ Text.decimalInt v ++ ")") unscaled ++ "," ++
      Text.decimal precision.toNat ++ "," ++ Text.decimalInt scale.toInt
  | .text _ value => orElse "NULL" id value
  | .binary _ bytes | .fixedSizeBinary _ bytes => orElse "NULL" bytesText bytes
  | .date32 days => orElse "NULL" dayText days
  | .date64 milliseconds => orElse "NULL" (fun ms => dayText (dayOfMilliseconds ms)) milliseconds
  | .dayTime parts => orElse "NULL" (fun (days, ms) => dayTimeText days ms) parts
  | .monthDayNano parts => orElse "NULL" (fun (months, days, ns) => monthDayNanoText months days ns) parts
  | .list large item items => (Scalar.list large item items).alone
  | .fixedSizeList item size items => (Scalar.fixedSizeList item size items).alone
  | .struct _ none | .union _ _ none => "NULL"
  | .struct fields (some values) =>
    "\x7b" ++ ",".intercalate (plainMembers (fields.map FieldOf.name) values) ++ "\x7d"
  | .map _ _ items => orElse "NULL" mapText items
  | .union _ _ (some (tag, value)) => Text.decimalInt tag.toInt ++ ":" ++ value.plain
  | .dictionary _ value => value.plain

def plainMembers : List String → List Scalar → List String
  | name :: names, value :: values => (name ++ ":" ++ value.plain) :: plainMembers names values
  | _, _ => []

end

def sql (value : Scalar) : String :=
  if value.isNull then "null"
  else
    match value with
    | .text _ (some content) => String.ofList (quoteSql content.toList)
    | value => value.plain

end Scalar

end LookupJoin
