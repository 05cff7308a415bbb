import Settings.Text.Digits

/-!
Decimal numbers `coefficient * 10 ^ exponent`, written in positional notation.
-/

namespace Settings

/-- The number `coefficient * 10 ^ exponent`. -/
structure Decimal where
  coefficient : Nat
  exponent : Int
deriving Repr, DecidableEq

namespace Decimal

/-- Positional notation: no exponent, and no point in whole numbers. -/
def positional (decimal : Decimal) : List Char :=
  let digits := Text.ofNat decimal.coefficient
  let places := (-decimal.exponent).toNat
  if places = 0 then digits ++ List.replicate decimal.exponent.toNat '0'
  else if places < digits.length then
    digits.take (digits.length - places) ++ '.' :: digits.drop (digits.length - places)
  else '0' :: '.' :: (List.replicate (places - digits.length) '0' ++ digits)

/-- The exponent of the first digit: the number lies between `10 ^ leading` and
`10 ^ (leading + 1)` unless its coefficient is zero. -/
def leading (decimal : Decimal) : Int :=
  ((Text.ofNat decimal.coefficient).length : Int) - 1 + decimal.exponent

end Decimal

end Settings
