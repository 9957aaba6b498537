/-!
Hexadecimal digits, written and read.
-/
namespace LookupJoin.Text

def hexDigit (upper : Bool) (d : Nat) : Char :=
  if d % 16 < 10 then Char.ofNat ('0'.toNat + d % 16)
  else Char.ofNat ((if upper then 'A' else 'a').toNat + d % 16 - 10)

def hexDigits (n : Nat) : List Char :=
  if n < 16 then [hexDigit false n] else hexDigits (n / 16) ++ [hexDigit false (n % 16)]

def hexValue? (c : Char) : Option Nat :=
  if '0'.toNat ≤ c.toNat ∧ c.toNat ≤ '9'.toNat then some (c.toNat - '0'.toNat)
  else if 'a'.toNat ≤ c.toNat ∧ c.toNat ≤ 'f'.toNat then some (c.toNat - 'a'.toNat + 10)
  else if 'A'.toNat ≤ c.toNat ∧ c.toNat ≤ 'F'.toNat then some (c.toNat - 'A'.toNat + 10)
  else none

def hexNumber? (row : List Char) : Option Nat :=
  row.foldlM (fun sum c => (hexValue? c).map (16 * sum + ·)) 0

def charAt? (code : Nat) : Option Char :=
  if code < 0xD800 ∨ (0xDFFF < code ∧ code < 0x110000) then some (Char.ofNat code) else none

end LookupJoin.Text
