import Settings.Literal.Reading
import Settings.Text.Blank
import Settings.Text.Case
import Settings.Value.Duration

/-!
Duration literals.

A text of digits alone is a count of milliseconds.  Any other literal is a sum of
components such as `1h 30m`: a whole number, an optional decimal fraction, and a
unit in any case.  White space may stand anywhere but inside a unit, and none is
needed between a unit and the next number.

The reader is a machine over the characters of the text in lower case.  Its
`Phase` says where in a component it stands; the sum of the finished components
is kept as seconds and nanoseconds, both in 64 bits.

The grammar of components, their units and the arithmetic of their sum are those
of the `humantime` parser and are assumed of it here, down to the carry of a full
second, which it does not check.  The rule for digits alone and the lower case of
the text are the library's own.
-/

namespace Settings.Literal

/-- A unit of time: its spellings and its length in nanoseconds.  Whole counts are
accumulated in steps of `wholeStep` nanoseconds and fractions must be whole multiples
of `fractionStep`; a unit without the latter has no fractions. -/
structure TimeUnit where
  spellings : List String
  length : Nat
  wholeStep : Nat
  fractionStep : Option Nat
deriving Repr, DecidableEq

/-- The units that can be read, in lower case. -/
def timeUnits : List TimeUnit :=
  let second := nanosPerSecond
  [⟨["nanos", "nsec", "ns"], 1, 1, none⟩,
   ⟨["usec", "us", "µs"], 1000, 1, some 1⟩,
   ⟨["millis", "msec", "ms"], 1000000, 1, some 1⟩,
   ⟨["seconds", "second", "secs", "sec", "s"], second, second, some 1⟩,
   ⟨["minutes", "minute", "min", "mins", "m"], 60 * second, second, some 1⟩,
   ⟨["hours", "hour", "hr", "hrs", "h"], 3600 * second, second, some second⟩,
   ⟨["days", "day", "d"], 86400 * second, second, some second⟩,
   ⟨["weeks", "week", "wk", "wks", "w"], 604800 * second, second, some second⟩,
   ⟨["months", "month"], 2630016 * second, second, some second⟩,
   ⟨["years", "year", "yr", "yrs", "y"], 31557600 * second, second, some second⟩]

/-- The unit with a spelling. -/
def timeUnit? (spelling : List Char) : Option TimeUnit :=
  timeUnits.find? fun unit => unit.spellings.contains (String.ofList spelling)

/-- A decimal fraction `numerator / denominator`; the denominator is a power of ten, and
one while no digit has been read. -/
structure Fraction where
  numerator : Nat
  denominator : Nat
deriving Repr, DecidableEq

/-- A sum of components, in whole seconds and nanoseconds below a second. -/
structure Sum where
  seconds : Nat
  nanos : Nat
deriving Repr, DecidableEq

/-- Where the reader stands in a component. -/
inductive Phase where
  /-- Before the first digit of a component that may begin at this offset. -/
  | start (mark : Nat)
  /-- After a digit of the whole number. -/
  | whole (count : Nat)
  /-- After the point.  A fault is reported at `mark`. -/
  | fraction (count : Nat) (fraction : Fraction) (mark : Nat)
  /-- After a letter of the unit. -/
  | unit (count : Nat) (fraction : Option Fraction) (letters : List Char)
deriving Repr, DecidableEq

/-- A fault that ends the reading. -/
def fault {α : Type} (fault : DurationFault) : Except ReadFailure α :=
  .error (.unreadable (.duration fault))

/-- A number that must fit into 64 bits. -/
def fit64 (number : Nat) : Except ReadFailure Nat :=
  if number < wordLimit then .ok number else fault .unrepresentable

/-- The sum with some seconds and nanoseconds added.  Nanoseconds beyond a second are
carried with a check; a sum of exactly one second is carried at the very end, and
there is nothing left to report when that carry overflows. -/
def Sum.add (sum : Sum) (seconds nanos : Nat) : Except ReadFailure Sum := do
  let nanos ← fit64 (sum.nanos + nanos)
  let carried ←
    if nanosPerSecond < nanos then fit64 (seconds + nanos / nanosPerSecond) else pure seconds
  let rest := if nanosPerSecond < nanos then nanos % nanosPerSecond else nanos
  let total ← fit64 (sum.seconds + carried)
  if rest < nanosPerSecond then return ⟨total, rest⟩
  else if total + 1 < wordLimit then return ⟨total + 1, rest - nanosPerSecond⟩
  else throw (.aborted .durationCarry)

/-- The sum with a count of steps of one nanosecond or one second added. -/
def Sum.addSteps (sum : Sum) (step count : Nat) : Except ReadFailure Sum :=
  if step = 1 then sum.add 0 count else sum.add count 0

/-- The sum with a component added. -/
def Sum.addComponent (sum : Sum) (count : Nat) (fraction : Option Fraction)
    (letters : List Char) : Except ReadFailure Sum :=
  match timeUnit? letters with
  | none => fault (if letters.isEmpty then .unitNeeded count else .unknownUnit letters)
  | some unit => do
    let steps ← fit64 (count * (unit.length / unit.wholeStep))
    let sum ← sum.addSteps unit.wholeStep steps
    match fraction with
    | none => return sum
    | some fraction =>
      match unit.fractionStep with
      | none => fault .unrepresentable
      | some step =>
        let scaled ← fit64 (fraction.numerator * (unit.length / step))
        if scaled % fraction.denominator = 0 then
          sum.addSteps step (scaled / fraction.denominator)
        else fault .unrepresentable

/-- A letter of a unit. -/
def isUnitLetter (c : Char) : Bool := c.isAlpha || c == 'µ'

/-- A fraction with one more digit.  Leading zeros only enlarge the denominator. -/
def Fraction.push (fraction : Fraction) (digit : Nat) : Except ReadFailure Fraction := do
  let denominator ← fit64 (fraction.denominator * 10)
  let numerator ← fit64 (fraction.numerator * 10 + digit)
  return ⟨numerator, denominator⟩

/-- One step of the reader, at the byte offset of the character. -/
def step (offset : Nat) (c : Char) : Phase × Sum → Except ReadFailure (Phase × Sum)
  | (.start mark, sum) =>
    if c.isDigit then .ok (.whole (Text.digitValue c), sum)
    else if Text.isSpace c then .ok (.start mark, sum)
    else fault (.numberExpected mark)
  | (.whole count, sum) =>
    if c.isDigit then do return (.whole (← fit64 (count * 10 + Text.digitValue c)), sum)
    else if Text.isSpace c then .ok (.whole count, sum)
    else if isUnitLetter c then .ok (.unit count none [c], sum)
    else if c = '.' then .ok (.fraction count ⟨0, 1⟩ offset, sum)
    else fault (.invalidCharacter offset)
  | (.fraction count fraction mark, sum) =>
    let next := offset + c.utf8Size
    if c.isDigit then do return (.fraction count (← fraction.push (Text.digitValue c)) next, sum)
    else if Text.isSpace c then .ok (.fraction count fraction next, sum)
    else if isUnitLetter c && fraction.denominator ≠ 1 then
      .ok (.unit count (some fraction) [c], sum)
    else fault (.invalidCharacter mark)
  | (.unit count fraction letters, sum) =>
    if c.isDigit then do
      return (.whole (Text.digitValue c), ← sum.addComponent count fraction letters)
    else if Text.isSpace c then do
      return (.start (offset + c.utf8Size), ← sum.addComponent count fraction letters)
    else if isUnitLetter c then .ok (.unit count fraction (letters ++ [c]), sum)
    else fault (.invalidCharacter offset)

/-- The sum at the end of the text. -/
def finish : Phase × Sum → Except ReadFailure Sum
  | (.start _, sum) => .ok sum
  | (.whole count, sum) => sum.addComponent count none []
  | (.fraction count fraction mark, sum) =>
    if fraction.denominator = 1 then fault (.invalidCharacter mark)
    else sum.addComponent count (some fraction) []
  | (.unit count fraction letters, sum) => sum.addComponent count fraction letters

/-- The reader on the rest of the text, which begins at a byte offset. -/
def readComponents (offset : Nat) (state : Phase × Sum) : List Char → Except ReadFailure Sum
  | [] => finish state
  | c :: rest => do readComponents (offset + c.utf8Size) (← step offset c state) rest

/-- The duration of a sum; a sum of components is always in range. -/
def Sum.duration (sum : Sum) : Except ReadFailure Duration :=
  match Duration.ofNanos? (sum.seconds * nanosPerSecond + sum.nanos) with
  | some duration => .ok duration
  | none => .error .outOfRange

/-- A duration. -/
def readDuration (text : List Char) : Except ReadFailure Duration :=
  if text.isEmpty then .error (.unreadable .emptyDuration)
  else if text.all Char.isDigit then
    let count := Text.digitsValue text
    if count < wordLimit then
      match Duration.ofNanos? (count * 1000000) with
      | some duration => .ok duration
      | none => .error .outOfRange
    else .error .outOfRange
  else do
    let sum ← readComponents 0 (.start 0, ⟨0, 0⟩) (Text.lower text)
    sum.duration

end Settings.Literal
