import Settings.Binary.Basic
import Settings.Decimal

/-!
The shortest decimal that reads back as a given binary number.

The reals that round to a magnitude form an interval between the two midpoints
to its neighbours, ends included exactly when the rank is even.  Decimal grids
`10 ^ k` are tried from coarse to fine; on each the two grid points around the
number are tested.  The first grid with a hit wins, and of two hits the nearer.
Arithmetic is exact: everything is counted in half units of the format.
-/

namespace Settings.Binary

variable {format : Format}

/-- Which of two equally near grid points is taken. -/
inductive Tie where
  | up
  | even
deriving Repr, DecidableEq

/-- The point next to the magnitude of `rank` on the grid `10 ^ exponent` that rounds
to `rank`, if there is one. -/
def gridPoint? (format : Format) (tie : Tie) (rank : Nat) (exponent : Int) : Option Nat :=
  let fine : Nat := 10 ^ (-exponent).toNat
  let step : Nat := 10 ^ exponent.toNat * 2 ^ (format.scale + 1)
  let exact := 2 * format.units rank * fine
  let lowEnd := (format.units (rank - 1) + format.units rank) * fine
  let highEnd := (format.units rank + format.units (rank + 1)) * fine
  let closed := rank % 2 == 0
  let below := exact / step
  let hitsBelow := lowEnd < below * step || (closed && lowEnd == below * step)
  let hitsAbove := (below + 1) * step < highEnd || (closed && (below + 1) * step == highEnd)
  if hitsBelow && hitsAbove then
    let down := exact - below * step
    let up := (below + 1) * step - exact
    if down < up then some below
    else if up < down then some (below + 1)
    else
      match tie with
      | .up => some (below + 1)
      | .even => some (if below % 2 == 0 then below else below + 1)
  else if hitsBelow then some below
  else if hitsAbove then some (below + 1)
  else none

/-- The first hit on the grids `10 ^ (n - scale)`, …, `10 ^ (1 - scale)`, and the exact
decimal expansion if there is none. -/
def shortestFrom (format : Format) (tie : Tie) (rank : Nat) : Nat → Decimal
  | 0 => ⟨format.units rank * 5 ^ format.scale, -(format.scale : Int)⟩
  | n + 1 =>
    let exponent := ((n + 1 : Nat) : Int) - format.scale
    match gridPoint? format tie rank exponent with
    | some coefficient => ⟨coefficient, exponent⟩
    | none => shortestFrom format tie rank n

/-- The shortest decimal that rounds to the magnitude of a positive rank. -/
def shortest (format : Format) (tie : Tie) (rank : Nat) : Decimal :=
  let whole : Nat := format.units (rank + 1) / 2 ^ format.scale
  shortestFrom format tie rank ((Nat.toDigits 10 whole).length + format.scale)

/-- The text of a number: shortest digits, never an exponent, no point in whole
numbers. -/
def text : Binary format → String
  | .nan => "NaN"
  | .infinite false => "inf"
  | .infinite true => "-inf"
  | .finite negative rank =>
    let magnitude :=
      if rank.val = 0 then ['0'] else (shortest format .up rank).positional
    String.ofList (if negative then '-' :: magnitude else magnitude)

end Settings.Binary
