/-!
Sorted tables of character ranges, and their lookup.

A table is an array of disjoint ranges in increasing order.  Lookup halves the
part of the table that can still hold the character, so it inspects at most
`Nat.log2 size + 1` entries; the count is the fuel of the search.
-/

namespace Settings.Text

/-- Position of the last entry of `table` whose start, as given by `start`, is at
most `code`, among the positions from `low` up to but not including `high`. -/
def lastStart {α : Type} (table : Array α) (start : α → Nat) (code : Nat) :
    Nat → Nat → Nat → Option α
  | 0, _, _ => none
  | fuel + 1, low, high =>
    if low ≥ high then none
    else
      let middle := (low + high) / 2
      match table[middle]? with
      | none => none
      | some entry =>
        if start entry ≤ code then
          match lastStart table start code fuel (middle + 1) high with
          | some later => some later
          | none => some entry
        else lastStart table start code fuel low middle

/-- The last entry of `table` that starts at or before `code`. -/
def entryBefore {α : Type} (table : Array α) (start : α → Nat) (code : Nat) : Option α :=
  lastStart table start code (table.size.log2 + 2) 0 table.size

/-- Membership of a character code in a table of inclusive ranges. -/
def inRanges (table : Array (Nat × Nat)) (code : Nat) : Bool :=
  match entryBefore table Prod.fst code with
  | some (_, last) => code ≤ last
  | none => false

/-- A run of characters `first, first + step, …, last` that all move by `offset`
when their case changes. -/
structure Shift where
  first : Nat
  last : Nat
  step : Nat
  offset : Int
deriving Repr, DecidableEq

/-- The run moves `code`. -/
def Shift.covers (shift : Shift) (code : Nat) : Bool :=
  shift.first ≤ code && code ≤ shift.last && (code - shift.first) % shift.step == 0

/-- The character that `code` becomes under a table of runs, itself if none covers it. -/
def shifted (table : Array Shift) (code : Nat) : Nat :=
  match entryBefore table Shift.first code with
  | some shift => if shift.covers code then ((code : Int) + shift.offset).toNat else code
  | none => code

end Settings.Text
