import LookupJoin.Number.Shortest
import LookupJoin.Text.Hex
import LookupJoin.Value
/-!
Data written as JSON, without blanks. In texts the quote, the backslash and the control characters below
the blank are escaped, and nothing else.
-/
namespace LookupJoin.Json

def escapeChar (c : Char) : List Char :=
  if c = '"' || c = '\\' then ['\\', c]
  else if c = '\x08' then ['\\', 'b']
  else if c = '\x0c' then ['\\', 'f']
  else if c = '\n' then ['\\', 'n']
  else if c = '\r' then ['\\', 'r']
  else if c = '\t' then ['\\', 't']
  else if c.toNat < 0x20 then
    ['\\', 'u', '0', '0', Text.hexDigit false (c.toNat / 16), Text.hexDigit false c.toNat]
  else [c]

def textLiteral (text : String) : String :=
  String.ofList ('"' :: text.toList.flatMap escapeChar ++ ['"'])

def floatLiteral (bits : Nat) : String :=
  match FloatFormat.double.decode bits with
  | .finite _ _ _ => FloatFormat.double.compactText ⟨16, 5⟩ bits
  | _ => "null"

mutual

def render : Value → String
  | .null => "null"
  | .bool value => if value then "true" else "false"
  | .int value => Text.decimalInt value
  | .float bits => floatLiteral bits
  | .text value => textLiteral value
  | .list items => "[" ++ ",".intercalate (renderItems items) ++ "]"
  | .table entries => "\x7b" ++ ",".intercalate (renderEntries entries) ++ "\x7d"

def renderItems : List Value → List String
  | [] => []
  | item :: rest => render item :: renderItems rest

def renderEntries : List (String × Value) → List String
  | [] => []
  | (key, value) :: rest => (textLiteral key ++ ":" ++ render value) :: renderEntries rest

end

end LookupJoin.Json
