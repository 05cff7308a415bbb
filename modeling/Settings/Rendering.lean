import Settings.Text.Quoted
import Settings.Value.Basic

/-!
The canonical text of a value, which coercion reads back.

Elements of a list are joined by commas and entries of a map are joined by
commas after joining key and value by a colon; at each level the parts are
quoted if the splitter would not return them unchanged.
-/

namespace Settings

/-- The character between the elements of a list and between the entries of a map. -/
def elementDelimiter : Char := ','

/-- The character between the key and the value of an entry of a map. -/
def entryDelimiter : Char := ':'

/-- A text quoted, if need be, to stand among elements with a delimiter. -/
def escaped (delimiter : Char) (text : String) : String :=
  String.ofList (Text.escape [delimiter] text.toList)

/-- The canonical text of a list of elements. -/
def joinElements (elements : List String) : String :=
  (String.singleton elementDelimiter).intercalate (elements.map (escaped elementDelimiter))

/-- The canonical text of an entry of a map. -/
def renderEntry (entry : String × String) : String :=
  escaped entryDelimiter entry.1 ++ String.singleton entryDelimiter ++
    escaped entryDelimiter entry.2

/-- The canonical text of a map. -/
def renderMap (entries : Table String) : String :=
  joinElements (entries.entries.map renderEntry)

namespace Value

mutual

/-- The canonical text of a value.  A secret is written as its literal. -/
def render : Value → String
  | .text value => value
  | .secret value => value.literal
  | .map entries => renderMap entries
  | .list elements => joinElements (renderAll elements)
  | value => value.display

/-- The canonical texts of the elements of a list. -/
def renderAll : List Value → List String
  | [] => []
  | value :: rest => render value :: renderAll rest

end

mutual

/-- The canonical text of a value with every secret replaced by the mask. -/
def renderMasked : Value → String
  | .secret _ => Secret.mask
  | .list elements => joinElements (renderMaskedAll elements)
  | value => value.render

/-- The masked texts of the elements of a list. -/
def renderMaskedAll : List Value → List String
  | [] => []
  | value :: rest => renderMasked value :: renderMaskedAll rest

end

end Value

end Settings
