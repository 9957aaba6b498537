import LookupJoin.Text.Digits
import LookupJoin.Zone.AliasTable
import LookupJoin.Zone.EraTable
import LookupJoin.Zone.History
import LookupJoin.Zone.RuleTable
/-!
The histories of zones by name, read from the tables. The tables are well formed, so that their readers
refuse nothing.
-/
namespace LookupJoin.Zone

def words (text : String) : List String :=
  ((text.splitOn "\n").flatMap fun line => line.splitOn " ").filter (· ≠ "")

/-- The sections of a table, each a label and the words that follow it. -/
def sections (table : String) : List (List String) := (table.splitOn ";").map words

def section? (label : String) (table : List (List String)) : Option (List String) :=
  (table.find? fun group => group.head? = some label).map (·.drop 1)

def unsignedSeconds (text : List Char) : Nat :=
  let parts := (String.ofList text).splitOn ":"
  (parts.zip [3600, 60, 1]).foldl (fun sum (part, weight) => sum + Text.value part.toList * weight) 0

def seconds (text : List Char) : Int :=
  match text with
  | '-' :: rest => -(unsignedSeconds rest : Int)
  | rest => unsignedSeconds rest

def dayRule (text : List Char) : DayRule :=
  match text with
  | [weekday, 'L'] => .last (Text.digitValue weekday)
  | weekday :: '>' :: day => .onOrAfter (Text.digitValue weekday) (Text.value day)
  | weekday :: '<' :: day => .onOrBefore (Text.digitValue weekday) (Text.value day)
  | day => .number (Text.value day)

def clockKind (text : List Char) : ClockKind :=
  if text.getLast? = some 's' then .standard
  else if text.getLast? = some 'u' then .universal
  else .wall

def moment (month day time : String) : Moment :=
  ⟨Text.value month.toList, dayRule day.toList,
    seconds (time.toList.filter fun c => Text.isDigit c || c = ':'), clockKind time.toList⟩

def changes : List String → List Change
  | first :: last :: month :: day :: time :: saving :: rest =>
    ⟨Text.value first.toList, Text.value last.toList, moment month day time, seconds saving.toList⟩ ::
      changes rest
  | _ => []

def saving (rules : List (List String)) (word : String) : Saving :=
  match section? word rules with
  | some words => .yearly (changes words)
  | none => .fixed (seconds word.toList)

def eras (rules : List (List String)) : List String → List Era
  | offset :: amount :: year :: month :: day :: time :: rest =>
    ⟨seconds offset.toList, saving rules amount,
      some (Text.value year.toList, moment month day time)⟩ :: eras rules rest
  | [offset, amount] => [⟨seconds offset.toList, saving rules amount, none⟩]
  | _ => []

/-- The name under which the eras of a zone stand. -/
def ownName (name : String) : String :=
  (((sections aliasTable).find? fun names => name ∈ names).bind (·.head?)).getD name

def history? (name : String) : Option (List Era) :=
  (section? (ownName name) (sections eraTable)).map (eras (sections ruleTable))

end LookupJoin.Zone
