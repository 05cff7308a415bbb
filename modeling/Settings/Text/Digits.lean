/-!
Decimal digits of natural numbers and integers.

Numbers are written by `Nat.toDigits 10` and read by `Nat.ofDigitChars 10`, so the
laws of these two library functions carry over unchanged.
-/

namespace Settings.Text

/-- The decimal digits of a natural number, without leading zeros. -/
def ofNat (n : Nat) : List Char := Nat.toDigits 10 n

/-- The decimal digits of an integer, after a minus sign if it is negative. -/
def ofInt (n : Int) : List Char :=
  if n < 0 then '-' :: ofNat n.natAbs else ofNat n.natAbs

/-- The number that a run of decimal digits denotes. -/
def digitsValue (digits : List Char) : Nat := Nat.ofDigitChars 10 digits 0

/-- The value of a decimal digit. -/
def digitValue (c : Char) : Nat := c.toNat - '0'.toNat

/-- The value of a hexadecimal digit of either case. -/
def hexDigit? (c : Char) : Option Nat :=
  if c.isDigit then some (c.toNat - 48)
  else if 'a' ≤ c && c ≤ 'f' then some (c.toNat - 87)
  else if 'A' ≤ c && c ≤ 'F' then some (c.toNat - 55)
  else none

/-- The character with a number in hexadecimal digits. -/
def numberedChar? (digits : List Char) : Option Char := do
  let code ← digits.foldlM (fun code digit => do return code * 16 + (← hexDigit? digit)) 0
  if code < 0xD800 || (0xDFFF < code && code < 0x110000) then some (Char.ofNat code) else none

/-- The hexadecimal digits of a natural number, in lower case. -/
def ofNatHex (n : Nat) : List Char := Nat.toDigits 16 n

/-- Lower case hexadecimal digits in a field of fixed width. -/
def hexField (width n : Nat) : List Char :=
  let digits := ofNatHex n
  List.replicate (width - digits.length) '0' ++ digits

@[simp] theorem digitsValue_ofNat (n : Nat) : digitsValue (ofNat n) = n :=
  Nat.ofDigitChars_toDigits (by decide) (by decide)

end Settings.Text
