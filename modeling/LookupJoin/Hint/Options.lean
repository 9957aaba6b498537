import LookupJoin.Hint
import LookupJoin.Hint.Duration
/-!
Hints from named options. Every option must be known, every value well formed, and the four options of a
retry come together or not at all. The options are checked one after the other, a retry last.
-/
namespace LookupJoin.JoinHint

abbrev Options := List (String × String)

def retryOptions : List String := ["retry-predicate", "retry-strategy", "fixed-delay", "max-attempts"]

def knownOptions : List String :=
  ["table", "async", "output-mode", "capacity", "timeout"] ++ retryOptions

def checkKnown (options : Options) : Except HintFault Unit :=
  match options.find? fun option => !knownOptions.contains option.1 with
  | some unknown => .error (.unknownOption unknown.1)
  | none => .ok ()

def readAsync (text : String) : Except HintFault Bool :=
  if Text.normalize text = "true" then .ok true
  else if Text.normalize text = "false" then .ok false
  else .error (.async text)

def readPositive (limit : Nat) (fault : String → HintFault) (text : String) : Except HintFault Nat :=
  match Text.natural? limit (Text.trim text.toList) with
  | some n => if 0 < n then .ok n else .error (fault text)
  | none => .error (fault text)

def expect (word : String) (fault : String → HintFault) (text : String) : Except HintFault Unit :=
  if Text.normalize text = word then .ok () else .error (fault text)

def readRetry (predicate strategy delay attempts : String) : Except HintFault Retry := do
  expect "lookup_miss" .retryPredicate predicate
  expect "fixed_delay" .retryStrategy strategy
  let delayMs ← Duration.read delay
  let maxAttempts ← readPositive UInt32.size .maxAttempts attempts
  return ⟨delayMs, maxAttempts⟩

def retryOf (options : Options) : Except HintFault (Option Retry) :=
  match options.lookup "retry-predicate", options.lookup "retry-strategy", options.lookup "fixed-delay",
    options.lookup "max-attempts" with
  | none, none, none, none => .ok none
  | some predicate, some strategy, some delay, some attempts =>
    (readRetry predicate strategy delay attempts).map some
  | _, _, _, _ => .error .partialRetry

def given (options : Options) (name : String) (read : String → Except HintFault α) :
    Except HintFault (Option α) :=
  match options.lookup name with
  | none => .ok none
  | some text => (read text).map some

def ofOptions (options : Options) : Except HintFault JoinHint := do
  checkKnown options
  let async ← given options "async" readAsync
  let outputMode ← given options "output-mode" OutputMode.read
  let capacity ← given options "capacity" (readPositive UInt64.size .capacity)
  let timeoutMs ← given options "timeout" Duration.read
  let retry ← retryOf options
  return ⟨options.lookup "table", async, outputMode, capacity, timeoutMs, retry⟩

end LookupJoin.JoinHint
