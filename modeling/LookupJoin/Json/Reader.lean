import LookupJoin.Json.Number
import LookupJoin.Text.Hex
/-!
Data read from JSON. Each reader takes the characters still to be read and gives back what it read and the
rest, or nothing when the text breaks the grammar.
-/
namespace LookupJoin.Json

def isSpace (c : Char) : Bool := c = ' ' || c = '\t' || c = '\n' || c = '\r'

def skip (text : List Char) : List Char := text.dropWhile isSpace

def escape? (c : Char) : Option Char :=
  if c = '"' || c = '\\' || c = '/' then some c
  else if c = 'b' then some '\x08'
  else if c = 'f' then some '\x0c'
  else if c = 'n' then some '\n'
  else if c = 'r' then some '\r'
  else if c = 't' then some '\t'
  else none

def isHighSurrogate (unit : Nat) : Bool := 0xD800 ≤ unit && unit < 0xDC00

def surrogates? (high low : Nat) : Option Char :=
  if 0xDC00 ≤ low ∧ low < 0xE000 then
    Text.charAt? (0x10000 + (high - 0xD800) * 0x400 + (low - 0xDC00))
  else none

def unicodeEscape? : List Char → Option (Char × List Char)
  | a :: b :: c :: d :: rest => do
    let unit ← Text.hexNumber? [a, b, c, d]
    if isHighSurrogate unit then
      match rest with
      | '\\' :: 'u' :: e :: f :: g :: h :: rest => do
        let low ← Text.hexNumber? [e, f, g, h]
        return (← surrogates? unit low, rest)
      | _ => none
    else
      return (← Text.charAt? unit, rest)
  | _ => none

def textChar? : List Char → Option (Char × List Char)
  | '\\' :: 'u' :: rest => unicodeEscape? rest
  | '\\' :: c :: rest => (escape? c).map fun c => (c, rest)
  | c :: rest => if c.toNat < 0x20 then none else some (c, rest)
  | [] => none

/-- A text after its opening quote. The bound counts characters and is never short for a text in hand. -/
def textBody? : Nat → List Char → Option (List Char × List Char)
  | 0, _ => none
  | bound + 1, text =>
    match text with
    | '"' :: rest => some ([], rest)
    | text => do
      let (c, rest) ← textChar? text
      let (more, rest) ← textBody? bound rest
      return (c :: more, rest)

def textLiteral? (bound : Nat) (text : List Char) : Option (String × List Char) :=
  (textBody? bound text).map fun (content, rest) => (String.ofList content, rest)

mutual

/-- A value with at most `depth` lists and tables inside each other. The bound counts steps and is never
short for a text in hand. -/
def value? : Nat → Nat → List Char → Option (Value × List Char)
  | 0, _, _ => none
  | bound + 1, depth, text =>
    match skip text with
    | '"' :: rest => (textLiteral? bound rest).map fun (content, rest) => (.text content, rest)
    | '[' :: rest =>
      if depth = 0 then none
      else
        match skip rest with
        | ']' :: rest => some (.list [], rest)
        | rest => (items? bound (depth - 1) rest).map fun (items, rest) => (.list items, rest)
    | '\x7b' :: rest =>
      if depth = 0 then none
      else
        match skip rest with
        | '\x7d' :: rest => some (.table [], rest)
        | rest => (entries? bound (depth - 1) rest).map fun (entries, rest) =>
          (.table (Value.unique entries), rest)
    | 'n' :: 'u' :: 'l' :: 'l' :: rest => some (.null, rest)
    | 't' :: 'r' :: 'u' :: 'e' :: rest => some (.bool true, rest)
    | 'f' :: 'a' :: 'l' :: 's' :: 'e' :: rest => some (.bool false, rest)
    | rest => number? rest

def items? : Nat → Nat → List Char → Option (List Value × List Char)
  | 0, _, _ => none
  | bound + 1, depth, text => do
    let (item, rest) ← value? bound depth text
    match skip rest with
    | ',' :: rest => (items? bound depth rest).map fun (more, rest) => (item :: more, rest)
    | ']' :: rest => some ([item], rest)
    | _ => none

def entries? : Nat → Nat → List Char → Option (List (String × Value) × List Char)
  | 0, _, _ => none
  | bound + 1, depth, text => do
    let '"' :: rest := skip text | none
    let (key, rest) ← textLiteral? bound rest
    let ':' :: rest := skip rest | none
    let (value, rest) ← value? bound depth rest
    match skip rest with
    | ',' :: rest => (entries? bound depth rest).map fun (more, rest) => ((key, value) :: more, rest)
    | '\x7d' :: rest => some ([(key, value)], rest)
    | _ => none

end

def readNested? (depth : Nat) (text : String) : Option Value :=
  let chars := text.toList
  match value? (2 * chars.length + 2) depth chars with
  | some (value, rest) => if (skip rest).isEmpty then some value else none
  | none => none

def depthLimit : Nat := 127

def read? (text : String) : Option Value := readNested? depthLimit text

end LookupJoin.Json
