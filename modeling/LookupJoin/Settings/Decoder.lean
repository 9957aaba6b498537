import LookupJoin.Settings
import LookupJoin.Text.Blank
import LookupJoin.Text.Digits
import LookupJoin.Value
/-!
Two readers of settings. They differ in what they take for a number, a flag or the name of a mode: `exact` wants each
in its own form, `lenient` also takes the other forms people write in files and environment variables.
-/
namespace LookupJoin.Settings.Decoder

def exactNatural? : Value → Option Nat
  | .int n => if 0 ≤ n ∧ n < UInt64.size then some n.toNat else none
  | _ => none

def exactFlag? : Value → Option Bool
  | .bool b => some b
  | _ => none

/-- A name, or a table with the name for its key and nothing for its value. -/
def exactVariant? : Value → Option String
  | .text name | .table [(name, .null)] => some name
  | _ => none

def exact : Reader Value where
  table? := Value.table?
  list? := fun count value => value.list?.filter fun items => items.length ≤ count
  natural? := exactNatural?
  flag? := exactFlag?
  variant? := exactVariant?

def truthWords : List String := ["1", "true", "on", "yes"]

def falsityWords : List String := ["0", "false", "off", "no"]

def wordFlag? (word : String) : Option Bool :=
  if truthWords.contains (Text.folded word) then some true
  else if falsityWords.contains (Text.folded word) then some false
  else none

/-- A number, a fraction rounded, a flag as one or zero, or a text that says one of these. -/
def lenientNatural? : Value → Option Nat
  | .int n => if 0 ≤ n then some n.toNat else none
  | .bool b => some b.toNat
  | .float bits => some ((FloatFormat.double.decode bits).toNatural UInt64.size)
  | .text word => ((wordFlag? word).map Bool.toNat).or (Text.natural? UInt64.size word.toList)
  | _ => none

def lenientFlag? : Value → Option Bool
  | .bool b => some b
  | .int n => some (n ≠ 0)
  | .float bits => some (FloatFormat.double.decode bits).isNonzero
  | .text word => wordFlag? word
  | _ => none

def lenientVariant? : Value → Option String
  | .text name | .table [(name, _)] => some (Text.folded name)
  | _ => none

def lenient : Reader Value where
  table? := Value.table?
  list? := fun _ => Value.list?
  natural? := lenientNatural?
  flag? := lenientFlag?
  variant? := lenientVariant?

end LookupJoin.Settings.Decoder
