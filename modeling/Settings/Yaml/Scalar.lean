import Settings.Literal.Number
import Settings.Tree

/-!
What a plain scalar stands for.

A plain scalar is null, a truth value, an integer or a number if it is spelled as
one, and a text otherwise.  Decimal digits after a leading zero are a text.  An
integer may have up to 128 bits, and larger ones are read as floating-point
numbers.
-/

namespace Settings.Yaml

/-- The text is null. -/
def isNull (text : List Char) : Bool :=
  ["null", "Null", "NULL", "~"].contains (String.ofList text)

/-- The truth value that the text spells. -/
def readBool? (text : List Char) : Option Bool :=
  let text := String.ofList text
  if ["true", "True", "TRUE"].contains text then some true
  else if ["false", "False", "FALSE"].contains text then some false
  else none

/-- The number written in digits of a base up to sixteen. -/
def readDigits? (base : Nat) (digits : List Char) : Option Nat :=
  if digits.isEmpty then none
  else
    digits.foldlM (fun value digit => do
      let next ← Text.hexDigit? digit
      if next < base then some (value * base + next) else none) 0

/-- Decimal digits of which the first one is a zero without a meaning, after an optional sign. -/
def hasIdleZero (text : List Char) : Bool :=
  match (Literal.splitSign text).2 with
  | '0' :: rest => !rest.isEmpty && rest.all Char.isDigit
  | _ => false

/-- The magnitude of an integer without its sign. -/
def readMagnitude? (text : List Char) : Option Nat :=
  match text with
  | '0' :: 'x' :: digits => readDigits? 16 digits
  | '0' :: 'o' :: digits => readDigits? 8 digits
  | '0' :: 'b' :: digits => readDigits? 2 digits
  | digits => if hasIdleZero digits then none else readDigits? 10 digits

/-- The integer that the text spells, if it has at most 128 bits. -/
def readInteger? (text : List Char) : Option Int := do
  let (negative, unsigned) := Literal.splitSign text
  let magnitude ← readMagnitude? unsigned
  if negative then
    if magnitude ≤ 0x80000000000000000000000000000000 then some (-(magnitude : Int)) else none
  else
    if magnitude < 0x100000000000000000000000000000000 then some (magnitude : Int) else none

/-- The text without a plus sign at its start; another sign must not follow it. -/
def skipPlus? : List Char → Option (List Char)
  | '+' :: rest => if rest.head?.any ['+', '-'].contains then none else some rest
  | text => some text

/-- The infinity or the NaN that the text spells. -/
def readSpecial? (text : List Char) : Option (Binary .double) :=
  let spelled := String.ofList text
  let unsigned := String.ofList (Literal.splitSign text).2
  if [".inf", ".Inf", ".INF"].contains unsigned then some (.infinite (Literal.splitSign text).1)
  else if [".nan", ".NaN", ".NAN"].contains spelled then some .nan
  else none

/-- The number that the text spells.  A decimal must not be too large for the format. -/
def readReal? (text : List Char) : Option (Binary .double) := do
  match readSpecial? text with
  | some value => return value
  | none =>
    match Literal.readRounded? (← skipPlus? text) with
    | some (.finite negative rank) => return .finite negative rank
    | _ => none

/-- The node that a plain scalar stands for. -/
def resolvePlain (text : List Char) : Tree :=
  if text.isEmpty || isNull text then .null
  else
    match readBool? text with
    | some value => .bool value
    | none =>
      match readInteger? text with
      | some value => .integer value
      | none =>
        match if hasIdleZero text then none else readReal? text with
        | some value => .real value
        | none => .text (String.ofList text)

end Settings.Yaml
