import Settings.Binary.Rounding
import Settings.Literal.Reading
import Settings.Text.Case

/-!
Literals of floating-point numbers, and their reading in a binary format.

A literal is an optional sign followed by `inf`, `infinity` or `nan` in any case,
or by decimal digits with an optional point and exponent.  A decimal other than
zero never silently becomes zero or an infinity: the letters of the literal tell
whether it was zero or an infinity to begin with, and it is out of range if not.
-/

namespace Settings.Literal

/-- What a literal denotes before rounding, its sign aside. -/
inductive Numeral where
  | nan
  | infinite
  | decimal (value : Decimal)
deriving Repr, DecidableEq

/-- The exponent part of a decimal: nothing, or `e`, an optional sign and digits. -/
def readExponent? : List Char → Option Int
  | [] => some 0
  | c :: rest =>
    if c = 'e' || c = 'E' then
      let (negative, digits) :=
        match rest with
        | '-' :: digits => (true, digits)
        | '+' :: digits => (false, digits)
        | digits => (false, digits)
      if digits.isEmpty || !digits.all Char.isDigit then none
      else
        let magnitude : Int := Text.digitsValue digits
        some (if negative then -magnitude else magnitude)
    else none

/-- Digits with an optional point among them or at either end, then an optional
exponent; there is at least one digit. -/
def readDecimal? (text : List Char) : Option Decimal :=
  let whole := text.takeWhile Char.isDigit
  let afterWhole := text.dropWhile Char.isDigit
  let (places, afterPlaces) :=
    match afterWhole with
    | '.' :: rest => (rest.takeWhile Char.isDigit, rest.dropWhile Char.isDigit)
    | rest => ([], rest)
  if whole.isEmpty && places.isEmpty then none
  else
    (readExponent? afterPlaces).map fun exponent =>
      ⟨Text.digitsValue (whole ++ places), exponent - places.length⟩

/-- A literal without its sign. -/
def readNumeral? (text : List Char) : Option Numeral :=
  let folded := text.map Char.toLower
  if folded = "inf".toList || folded = "infinity".toList then some .infinite
  else if folded = "nan".toList then some .nan
  else (readDecimal? text).map .decimal

/-- A sign, if there is one, and the text after it. -/
def splitSign : List Char → Bool × List Char
  | '-' :: rest => (true, rest)
  | '+' :: rest => (false, rest)
  | text => (false, text)

/-- The binary number nearest to a literal, and zero or infinity as such; no decimal is
refused for its size. -/
def roundNumeral {format : Format} (negative : Bool) : Numeral → Binary format
  | .nan => .nan
  | .infinite => .infinite negative
  | .decimal value => Binary.ofDecimal negative value

/-- The number denoted by a text, if the text is a literal. -/
def readRounded? {format : Format} (text : List Char) : Option (Binary format) :=
  let (negative, numeral) := splitSign text
  (readNumeral? numeral).map (roundNumeral negative)

/-- The digits before any exponent are not all zero. -/
def hasNonzeroMantissa (text : List Char) : Bool :=
  (text.takeWhile fun c => !(c = 'e' || c = 'E')).any fun c => '1' ≤ c && c ≤ '9'

/-- The part stands somewhere in the text. -/
def holds (part : List Char) : List Char → Bool
  | [] => part.isEmpty
  | c :: rest => part.isPrefixOf (c :: rest) || holds part rest

/-- The letters of an infinity stand somewhere in the text, in any case. -/
def mentionsInfinity (text : List Char) : Bool := holds "inf".toList (Text.lower text)

/-- The number denoted by a literal.  It is out of range if it is infinite and the literal
does not say so, or if it is zero and the literal has a digit that is not. -/
def readBinary {format : Format} (text : List Char) : Except ReadFailure (Binary format) :=
  if text.isEmpty then .error (.unreadable .emptyFloat)
  else
    match readRounded? text with
    | none => .error (.unreadable .invalidFloat)
    | some value =>
      if value.isInfinite && !mentionsInfinity text then .error .outOfRange
      else if value.isZero && hasNonzeroMantissa text then .error .outOfRange
      else .ok value

end Settings.Literal
