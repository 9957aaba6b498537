import LookupJoin.Error
import LookupJoin.Text.Blank
/-!
Hints on a lookup join: whether to look up asynchronously and how, and whether to repeat a lookup that
finds nothing. What a hint leaves open is taken from the settings.
-/
namespace LookupJoin

inductive OutputMode where
  | ordered | allowUnordered
deriving DecidableEq, Repr, Inhabited

namespace OutputMode

def text : OutputMode → String
  | .ordered => "ORDERED"
  | .allowUnordered => "ALLOW_UNORDERED"

def word : OutputMode → String
  | .ordered => "ordered"
  | .allowUnordered => "allow_unordered"

def ofWord? (word : String) : Option OutputMode :=
  if word = "ordered" then some .ordered
  else if word = "allow_unordered" then some .allowUnordered
  else none

@[simp] theorem ofWord?_word (mode : OutputMode) : ofWord? mode.word = some mode := by
  cases mode <;> decide

def read (text : String) : Except HintFault OutputMode :=
  match ofWord? (Text.normalize text) with
  | some mode => .ok mode
  | none => .error (.outputMode text)

end OutputMode

structure Retry where
  delayMs : Nat
  maxAttempts : Nat
deriving DecidableEq, Repr

def Retry.text (retry : Retry) : String :=
  "LOOKUP_MISS, FIXED_DELAY, " ++ Text.decimal retry.delayMs ++ "ms, " ++ Text.decimal retry.maxAttempts

structure JoinHint where
  table : Option String := none
  async : Option Bool := none
  outputMode : Option OutputMode := none
  capacity : Option Nat := none
  timeoutMs : Option Nat := none
  retry : Option Retry := none
deriving DecidableEq, Repr

end LookupJoin
