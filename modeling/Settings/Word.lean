/-!
Words: the integers of 64 bits.
-/

namespace Settings

-- Powers of natural numbers are those of the core library in every module, whatever it imports.
attribute [scoped instance (2000)] instPowNat

/-- The number of words, two to the power of 64.  Words without a sign are below it. -/
def wordLimit : Nat := 0x10000000000000000

/-- The number of words that are not negative if words have a sign. -/
def signedLimit : Nat := 0x8000000000000000

/-- The integer is a word, with a sign or without. -/
def isWord (value : Int) : Bool :=
  decide (-(signedLimit : Int) ≤ value) && decide (value < (wordLimit : Int))

end Settings
