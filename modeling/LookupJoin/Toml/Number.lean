import LookupJoin.Number.Decimal
import LookupJoin.Text.Hex
import LookupJoin.Value
/-!
The words of TOML that stand for values without quotes: truth values, integers of 64 bits, floating-point
numbers, dates and times. Digits may be grouped by single underscores. Dates and times are kept as texts.
-/
namespace LookupJoin.Toml

open Text (isDigit)

/-- Digits with single underscores between them, which are left out. -/
def ungroup? (ok : Char → Bool) : List Char → Option (List Char)
  | [] => none
  | [c] => if ok c then some [c] else none
  | c :: '_' :: rest => if ok c then (ungroup? ok rest).map (c :: ·) else none
  | c :: rest => if ok c then (ungroup? ok rest).map (c :: ·) else none

def splitSign : List Char → List Char × List Char
  | '-' :: rest => (['-'], rest)
  | '+' :: rest => ([], rest)
  | text => ([], text)

def decimalDigits? (text : List Char) : Option (List Char) := do
  let row ← ungroup? isDigit text
  if row.head? = some '0' && 1 < row.length then none else some row

def integerLimit : Nat := 1 <<< 63

def decimalInteger? (text : List Char) : Option Int := do
  let (sign, rest) := splitSign text
  Text.integer? integerLimit (sign ++ (← decimalDigits? rest))

def inBase? (base : Nat) (text : List Char) : Option Int := do
  let row ← ungroup? (fun c => ((Text.hexValue? c).map (decide <| · < base)).getD false) text
  let n := row.foldl (fun sum c => base * sum + (Text.hexValue? c).getD 0) 0
  if n < integerLimit then some n else none

def integer? : List Char → Option Int
  | '0' :: 'x' :: rest => inBase? 16 rest
  | '0' :: 'o' :: rest => inBase? 8 rest
  | '0' :: 'b' :: rest => inBase? 2 rest
  | text => decimalInteger? text

def isMark (c : Char) : Bool := c = 'e' || c = 'E'

def fraction? : List Char → Option (List Char)
  | [] => some []
  | '.' :: rest => (ungroup? isDigit rest).map ('.' :: ·)
  | _ => none

def exponent? : List Char → Option (List Char)
  | [] => some []
  | _ :: rest => do
    let (sign, rest) := splitSign rest
    return 'e' :: sign ++ (← ungroup? isDigit rest)

/-- A fraction or an exponent makes a number a floating-point number. One too large for the format is
refused, unless it is negative. -/
def float? (text : List Char) : Option Nat := do
  let (sign, body) := splitSign text
  if body = ['i', 'n', 'f'] || body = ['n', 'a', 'n'] then
    FloatFormat.double.read? (sign ++ body)
  else
    let mantissa := body.takeWhile (!isMark ·)
    let whole ← decimalDigits? (mantissa.takeWhile (· ≠ '.'))
    let fraction ← fraction? (mantissa.dropWhile (· ≠ '.'))
    let exponent ← exponent? (body.dropWhile (!isMark ·))
    guard !(fraction.isEmpty && exponent.isEmpty)
    let bits ← FloatFormat.double.read? (sign ++ whole ++ fraction ++ exponent)
    if bits = FloatFormat.double.infinityBits then none else some bits

def fixedDigits? (count : Nat) (text : List Char) : Option (Nat × List Char) :=
  let row := text.take count
  if row.length = count && row.all isDigit then some (Text.value row, text.drop count) else none

def expect? (c : Char) : List Char → Option (List Char)
  | d :: rest => if c = d then some rest else none
  | [] => none

def isLeapYear (year : Nat) : Bool := year % 4 = 0 && (year % 100 ≠ 0 || year % 400 = 0)

def daysIn (year month : Nat) : Nat :=
  if month = 2 then (if isLeapYear year then 29 else 28)
  else if month = 4 || month = 6 || month = 9 || month = 11 then 30
  else 31

def date? (text : List Char) : Option (List Char) := do
  let (year, rest) ← fixedDigits? 4 text
  let (month, rest) ← fixedDigits? 2 (← expect? '-' rest)
  let (day, rest) ← fixedDigits? 2 (← expect? '-' rest)
  guard (1 ≤ month && month ≤ 12 && 1 ≤ day && day ≤ daysIn year month)
  return rest

def clock? (text : List Char) : Option (List Char) := do
  let (hour, rest) ← fixedDigits? 2 text
  let (minute, rest) ← fixedDigits? 2 (← expect? ':' rest)
  guard (hour ≤ 23 && minute ≤ 59)
  return rest

def time? (text : List Char) : Option (List Char) := do
  let (second, rest) ← fixedDigits? 2 (← expect? ':' (← clock? text))
  guard (second ≤ 60)
  match rest with
  | '.' :: rest => if (rest.takeWhile isDigit).isEmpty then none else some (rest.dropWhile isDigit)
  | rest => some rest

def offset? : List Char → Option (List Char)
  | [] => some []
  | c :: rest =>
    if c = 'Z' || c = 'z' then some rest
    else if c = '+' || c = '-' then clock? rest
    else none

def isMoment (text : List Char) : Bool :=
  match date? text with
  | some [] => true
  | some (mark :: rest) =>
    (mark = 'T' || mark = 't' || mark = ' ') && ((time? rest).bind offset?) = some []
  | none => time? text = some []

def word? (text : List Char) : Option Value :=
  if text = ['t', 'r', 'u', 'e'] then some (.bool true)
  else if text = ['f', 'a', 'l', 's', 'e'] then some (.bool false)
  else if isMoment text then some (.text (String.ofList text))
  else ((integer? text).map Value.int).or ((float? text).map Value.float)

def isWordChar (c : Char) : Bool := c.isAlphanum || c = '+' || c = '-' || c = '_' || c = '.' || c = ':'

/-- The word in front of a text. A date goes on over one blank when a time follows. -/
def splitWord (text : List Char) : List Char × List Char :=
  let word := text.takeWhile isWordChar
  let rest := text.dropWhile isWordChar
  match rest with
  | ' ' :: rest' =>
    let whole := word ++ ' ' :: rest'.takeWhile isWordChar
    if isMoment whole then (whole, rest'.dropWhile isWordChar) else (word, rest)
  | rest => (word, rest)

end LookupJoin.Toml
