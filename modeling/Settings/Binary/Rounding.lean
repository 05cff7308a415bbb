import Settings.Binary.Basic
import Settings.Decimal

/-!
Reading a decimal as the nearest binary number.

The decimal is counted in units of the format as an exact quotient and rounded
once.  Decimals far outside the range of every format are decided by the
exponent of their first digit, so that no power of ten grows without a bound.
-/

namespace Settings.Binary

variable {format : Format}

/-- A decimal whose first digit stands beyond this power of ten is larger than every
finite number, and one whose first digit stands below its negative rounds to zero. -/
def farExponent : Int := 400

/-- The number nearest to a signed decimal, ties to the even rank. -/
def ofDecimal (negative : Bool) (decimal : Decimal) : Binary format :=
  if decimal.coefficient = 0 then ofRank negative 0
  else if farExponent < decimal.leading then .infinite negative
  else if decimal.leading < -farExponent then ofRank negative 0
  else
    ofRank negative
      (format.nearest (decimal.coefficient * 10 ^ decimal.exponent.toNat * 2 ^ format.scale)
        (10 ^ (-decimal.exponent).toNat))

end Settings.Binary
