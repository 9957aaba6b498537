/-!
Decimal numerals. `digits` writes a natural number, `value` reads a row of digits, and `natural?`
and `integer?` read numerals with an optional sign. Main statements: writing gives digits only, at
least one of them, and reading them gives the number back.
-/
namespace LookupJoin.Text

def digitChar (d : Nat) : Char := Char.ofNat ('0'.toNat + d % 10)

def digits (n : Nat) : List Char :=
  if n < 10 then [digitChar n] else digits (n / 10) ++ [digitChar (n % 10)]

def decimal (n : Nat) : String := String.ofList (digits n)

def decimalInt (n : Int) : String :=
  if n < 0 then "-" ++ decimal n.natAbs else decimal n.natAbs

def isDigit (c : Char) : Bool := '0'.toNat ≤ c.toNat && c.toNat ≤ '9'.toNat

def digitValue (c : Char) : Nat := c.toNat - '0'.toNat

def value (row : List Char) : Nat := row.foldl (fun sum c => 10 * sum + digitValue c) 0

def isNumeral (row : List Char) : Bool := !row.isEmpty && row.all isDigit

/-- Reads digits below `limit`; no sign. -/
def numeral? (limit : Nat) (row : List Char) : Option Nat :=
  if isNumeral row && value row < limit then some (value row) else none

/-- Reads an optional plus sign and digits below `limit`. -/
def natural? (limit : Nat) : List Char → Option Nat
  | '+' :: row => numeral? limit row
  | row => numeral? limit row

/-- Reads an optional sign and digits, at least `-limit` and below `limit`. -/
def integer? (limit : Nat) : List Char → Option Int
  | '-' :: row => (numeral? (limit + 1) row).map fun n => -(n : Int)
  | '+' :: row => (numeral? limit row).map Int.ofNat
  | row => (numeral? limit row).map Int.ofNat

theorem isDigit_digitChar (d : Nat) : isDigit (digitChar d) = true := by
  have every : ∀ k ∈ List.range 10, isDigit (digitChar k) = true := by decide
  have known := every (d % 10) (List.mem_range.mpr (Nat.mod_lt _ (by decide)))
  simpa [digitChar] using known

theorem digitValue_digitChar (d : Nat) : digitValue (digitChar d) = d % 10 := by
  have every : ∀ k ∈ List.range 10, digitValue (digitChar k) = k := by decide
  have known := every (d % 10) (List.mem_range.mpr (Nat.mod_lt _ (by decide)))
  simpa [digitChar] using known

theorem digits_ne_nil (n : Nat) : digits n ≠ [] := by
  rw [digits]
  split <;> simp

theorem all_isDigit_digits (n : Nat) : (digits n).all isDigit = true := by
  fun_induction digits n with
  | case1 n small => simp [isDigit_digitChar]
  | case2 n large ih => simp [ih, isDigit_digitChar]

theorem value_append_singleton (row : List Char) (c : Char) :
    value (row ++ [c]) = 10 * value row + digitValue c := by
  simp [value]

theorem value_digits (n : Nat) : value (digits n) = n := by
  fun_induction digits n with
  | case1 n small => simp only [value, List.foldl, digitValue_digitChar]; omega
  | case2 n large ih =>
    rw [value_append_singleton, ih, digitValue_digitChar]
    omega

end LookupJoin.Text
