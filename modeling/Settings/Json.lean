import Settings.Binary.Shortest

/-!
The parts of JSON in which answers are written: numbers, texts and indented
collections.
-/

namespace Settings.Json

/-- A number is written positionally if its first digit stands at one of these powers of ten. -/
def isPositional (leading : Int) : Bool := -5 ≤ leading && leading ≤ 15

/-- Digits with a point after the first one, and without a point if there is only one. -/
def scientificDigits : List Char → List Char
  | [] => []
  | [digit] => [digit]
  | digit :: rest => digit :: '.' :: rest

/-- A positive decimal, with a point or an exponent in it.  The sign of an exponent is always
written. -/
def decimalText (decimal : Decimal) : List Char :=
  if isPositional decimal.leading then
    let text := decimal.positional
    if decimal.exponent < 0 then text else text ++ ['.', '0']
  else
    let sign := if decimal.leading < 0 then '-' else '+'
    scientificDigits (Text.ofNat decimal.coefficient) ++
      'e' :: sign :: Text.ofNat decimal.leading.natAbs

/-- The text of a floating-point number: the fewest digits that read back, of two equally near
candidates the one that ends in an even digit.  Only finite numbers have a text. -/
def ofReal? : Binary .double → Option String
  | .finite negative rank =>
    let magnitude :=
      if rank.val = 0 then "0.0".toList
      else decimalText (Binary.shortest .double .even rank)
    some (String.ofList (if negative then '-' :: magnitude else magnitude))
  | _ => none

/-- The form of a character between double quotes. -/
def quotedChar (c : Char) : List Char :=
  if c = '"' then ['\\', '"']
  else if c = '\\' then ['\\', '\\']
  else if c = '\x08' then ['\\', 'b']
  else if c = '\x0c' then ['\\', 'f']
  else if c = '\n' then ['\\', 'n']
  else if c = '\r' then ['\\', 'r']
  else if c = '\t' then ['\\', 't']
  else if c.toNat < 0x20 then '\\' :: 'u' :: Text.hexField 4 c.toNat
  else [c]

/-- A text between double quotes. -/
def ofText (text : String) : String :=
  String.ofList ('"' :: (text.toList.flatMap quotedChar ++ ['"']))

/-- Items between brackets, each on a line of its own, where `indent` is the indentation of the
line with the closing bracket. -/
def block (indent : String) (opening closing : Char) (items : List String) : String :=
  if items.isEmpty then String.ofList [opening, closing]
  else
    let inner := indent ++ "  "
    String.singleton opening ++ "\n" ++ inner ++ (",\n" ++ inner).intercalate items ++ "\n" ++
      indent ++ String.singleton closing

/-- A list on indented lines. -/
def listBlock (indent : String) (items : List String) : String := block indent '[' ']' items

/-- An object on indented lines, its members in the order given. -/
def objectBlock (indent : String) (members : List (String × String)) : String :=
  block indent '{' '}' (members.map fun (name, value) => ofText name ++ ": " ++ value)

end Settings.Json
