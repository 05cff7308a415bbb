import Settings.Text.Digits
import Settings.Text.Printable

/-!
Listings for developers: texts between double quotes, with every character that
could not be told from another one shown by an escape.
-/

namespace Settings.Text

/-- The form of a character in a listing. -/
def listedChar (c : Char) : List Char :=
  if c = '\x00' then ['\\', '0']
  else if c = '\t' then ['\\', 't']
  else if c = '\n' then ['\\', 'n']
  else if c = '\r' then ['\\', 'r']
  else if c = '"' then ['\\', '"']
  else if c = '\\' then ['\\', '\\']
  else if isPrintable c then [c]
  else '\\' :: 'u' :: '{' :: (ofNatHex c.toNat ++ ['}'])

/-- A text between double quotes. -/
def listed (text : String) : String :=
  String.ofList ('"' :: (text.toList.flatMap listedChar ++ ['"']))

/-- A text between braces. -/
def braced (text : String) : String := String.singleton '{' ++ text ++ String.singleton '}'

/-- A bracketed list of texts. -/
def listedAll (texts : List String) : String :=
  "[" ++ ", ".intercalate (texts.map listed) ++ "]"

end Settings.Text
