import LookupJoin.Settings.Loader
import LookupJoin.Text.Digits
import LookupJoin.Value
/-!
Paths as texts, and values at paths. A path is written as a key and steps from there: a dot and a key, or the
number of an item in brackets. Keys are the same in any letter case. Storing a value makes the tables and lists on
the way; a table stored over a table adds to it, and any other value takes the place of what was there.
-/
namespace LookupJoin.Settings

namespace Path

def isKeyChar (c : Char) : Bool := c.isAlphanum || c = ' ' || c = '_' || c = '-'

def key? (text : List Char) : Option (String × List Char) :=
  let row := text.takeWhile isKeyChar
  if row.isEmpty then none else some (String.ofList row, text.dropWhile isKeyChar)

def skip (text : List Char) : List Char := text.dropWhile fun c => c = ' ' || c = '\t'

def number? (text : List Char) : Option (Int × List Char) := do
  let rest := skip text
  let (sign, rest) := if rest.head? = some '-' then (['-'], rest.drop 1) else ([], rest)
  let number ← Text.integer? (1 <<< 63) (sign ++ rest.takeWhile Text.isDigit)
  let ']' :: rest := skip (rest.dropWhile Text.isDigit) | none
  return (number, rest)

def step? : List Char → Option (Step × List Char)
  | '.' :: rest => (key? rest).map fun (name, rest) => (.key name, rest)
  | '[' :: rest => (number? rest).map fun (number, rest) => (.item number, rest)
  | _ => none

def steps? : Nat → List Char → Option (List Step)
  | 0, _ => none
  | bound + 1, text =>
    if text.isEmpty then some []
    else do
      let (step, rest) ← step? text
      return step :: (← steps? bound rest)

def read? (text : String) : Option Path := do
  let (root, rest) ← key? text.toList
  return ⟨root, ← steps? (rest.length + 1) rest⟩

/-- A text that is no path is a key as it stands. -/
def ofText (text : String) : Path := (read? text).getD ⟨text, []⟩

end Path

def entriesOf : Value → Value.Entries
  | .table entries => entries
  | _ => []

def itemsOf : Value → List Value
  | .list items => items
  | _ => []

def member (key : String) (entries : Value.Entries) (fallback : Value) : Value :=
  (entries.lookup (Text.folded key)).getD fallback

mutual

/-- Stores a value under a key, adding a table to a table. -/
def store (key : String) (value : Value) (entries : Value.Entries) : Value.Entries :=
  match value with
  | .table incoming =>
    Value.put (Text.folded key) (storeAll incoming (member key entries (.table []))) entries
  | value => Value.put (Text.folded key) value entries

def storeAll : List (String × Value) → Value → Value
  | [], present => present
  | (key, value) :: rest, present => .table (store key value (entriesOf (storeAll rest present)))

end

def place (length : Nat) (number : Int) : Nat :=
  if 0 ≤ number then number.toNat else length - number.natAbs

/-- Puts an item into a list, which grows as far as it has to. -/
def putItem (number : Int) (change : Value → Value) (items : List Value) : List Value :=
  let index := place items.length number
  let grown := items ++ List.replicate (index + 1 - items.length) .null
  grown.modify index change

def storeAt (value : Value) : List Step → Value → Value
  | [], _ => value
  | [.key name], present => .table (store name value (entriesOf present))
  | .key name :: steps, present =>
    let entries := entriesOf present
    .table (Value.put (Text.folded name) (storeAt value steps (member name entries .null)) entries)
  | .item number :: steps, present => .list (putItem number (storeAt value steps) (itemsOf present))

def storePath (path : Path) (value data : Value) : Value := storeAt value (.key path.root :: path.steps) data

end LookupJoin.Settings
