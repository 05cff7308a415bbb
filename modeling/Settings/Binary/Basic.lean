import Settings.Word

/-!
Binary floating-point numbers of a fixed format.

A finite magnitude is identified by its *rank*: its position among all finite
magnitudes of the format in increasing order, zero having rank 0.  Ranks `0` to
`2 ^ fractionBits` are the multiples of the smallest positive magnitude; from
there on the step doubles every `2 ^ fractionBits` ranks.  Counted in units of
that smallest magnitude every number is a natural number (`Format.units`), so
rounding, conversion and printing are exact arithmetic on natural numbers.

There is one NaN: its sign and its payload are left out, and no text shows them.
-/

namespace Settings

/-- A format is given by the widths of its fraction and exponent fields. -/
structure Format where
  fractionBits : Nat
  exponentBits : Nat
deriving Repr, DecidableEq

namespace Format

/-- Single precision. -/
def single : Format := ⟨23, 8⟩

/-- Double precision. -/
def double : Format := ⟨52, 11⟩

/-- The rank just above the largest finite magnitude. -/
def limit (format : Format) : Nat :=
  (2 ^ format.exponentBits - 1) * 2 ^ format.fractionBits

/-- The smallest positive magnitude is `2 ^ (-scale)`. -/
def scale (format : Format) : Nat :=
  2 ^ (format.exponentBits - 1) - 2 + format.fractionBits

/-- The magnitude of a rank as a multiple of the smallest positive one.  The formula
goes on past the largest finite magnitude, which gives overflow its threshold. -/
def units (format : Format) (rank : Nat) : Nat :=
  if rank < 2 ^ format.fractionBits then rank
  else
    (2 ^ format.fractionBits + rank % 2 ^ format.fractionBits) *
      2 ^ (rank / 2 ^ format.fractionBits - 1)

/-- The largest rank whose magnitude is at most `count` units. -/
def floorRank (format : Format) (count : Nat) : Nat :=
  if count < 2 ^ format.fractionBits then count
  else
    let exponent := count.log2 - format.fractionBits
    exponent * 2 ^ format.fractionBits + count / 2 ^ exponent

/-- The rank nearest to the quotient of two natural numbers, counted in units; a
quotient half way between two magnitudes goes to the even rank. -/
def nearest (format : Format) (numerator denominator : Nat) : Nat :=
  let rank := format.floorRank (numerator / denominator)
  let middle := denominator * (format.units rank + format.units (rank + 1))
  if 2 * numerator < middle then rank
  else if middle < 2 * numerator then rank + 1
  else if rank % 2 = 0 then rank
  else rank + 1

end Format

/-- A number of the format, or one of its special values.  There is one NaN. -/
inductive Binary (format : Format) where
  | nan
  | infinite (negative : Bool)
  | finite (negative : Bool) (rank : Fin format.limit)
deriving Repr, DecidableEq

namespace Binary

variable {format : Format}

/-- The number with a sign and a rank; a rank past the largest magnitude is an
infinity. -/
def ofRank (negative : Bool) (rank : Nat) : Binary format :=
  if h : rank < format.limit then .finite negative ⟨rank, h⟩ else .infinite negative

/-- The number whose sign, exponent and fraction fields are the given bits. -/
def ofBits (bits : Nat) : Binary format :=
  let width := format.exponentBits + format.fractionBits
  let negative := bits / 2 ^ width % 2 == 1
  let rank := bits % 2 ^ width
  if rank > format.limit then .nan else ofRank negative rank

/-- The bits of the sign, exponent and fraction fields; NaN has none of its own. -/
def toBits? : Binary format → Option Nat
  | .nan => none
  | .infinite negative => some (signBit negative + format.limit)
  | .finite negative rank => some (signBit negative + rank)
where
  signBit (negative : Bool) : Nat :=
    if negative then 2 ^ (format.exponentBits + format.fractionBits) else 0

/-- Positive or negative zero. -/
def isZero : Binary format → Bool
  | .finite _ rank => rank.val == 0
  | _ => false

/-- Positive or negative infinity. -/
def isInfinite : Binary format → Bool
  | .infinite _ => true
  | _ => false

/-- Numerical equality: NaN equals nothing, and the two zeros are equal. -/
def same (left right : Binary format) : Bool :=
  match left, right with
  | .nan, _ => false
  | _, .nan => false
  | left, right => left == right || (left.isZero && right.isZero)

/-- The number of another format nearest to this one, ties to the even rank. -/
def convert (target : Format) : Binary format → Binary target
  | .nan => .nan
  | .infinite negative => .infinite negative
  | .finite negative rank =>
    ofRank negative (target.nearest (format.units rank * 2 ^ target.scale) (2 ^ format.scale))

/-- A finite number that is zero or whose magnitude lies between the smallest and the
largest positive finite magnitude of another format. -/
def fitsIn (target : Format) : Binary format → Bool
  | .finite _ rank =>
    let numerator := format.units rank * 2 ^ target.scale
    rank.val == 0 ||
      (2 ^ format.scale ≤ numerator &&
        numerator ≤ target.units (target.limit - 1) * 2 ^ format.scale)
  | _ => false

end Binary

end Settings
