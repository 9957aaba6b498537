import LookupJoin.Error
import LookupJoin.Text.Blank
/-!
Durations: digits, optional blanks and a unit, with blanks around it all and letter case aside. Milliseconds
need no unit. The number and the duration in milliseconds are both 64-bit words.
-/
namespace LookupJoin.Duration

def wordLimit : Nat := UInt64.size

def factor? (unit : List Char) : Option Nat :=
  if unit = [] ∨ unit = ['m', 's'] then some 1
  else if unit = ['s'] then some 1000
  else if unit = ['m', 'i', 'n'] then some 60000
  else if unit = ['h'] then some 3600000
  else none

def milliseconds? (text : List Char) : Option Nat := do
  let count ← Text.numeral? wordLimit (text.takeWhile Text.isDigit)
  let factor ← factor? (Text.trim (text.dropWhile Text.isDigit))
  if count * factor < wordLimit then some (count * factor) else none

def read (text : String) : Except HintFault Nat :=
  let normal := Text.normalize text
  match milliseconds? normal.toList with
  | some count => .ok count
  | none => .error (.duration normal)

end LookupJoin.Duration
