import Settings.Text.Blank

/-!
Quoted runs: texts between single quotes, in which a quote is written twice.

`escape` protects a text for the splitter of `Settings.Text.Split`: a text that the
splitter would return unchanged as one element is left alone, any other is put
between quotes.
-/

namespace Settings.Text

/-- The character that opens and closes a quoted run. -/
def quote : Char := '\''

/-- The text with every quote doubled. -/
def doubleQuotes : List Char → List Char
  | [] => []
  | c :: rest => if c = quote then quote :: quote :: doubleQuotes rest else c :: doubleQuotes rest

/-- The text as a quoted run. -/
def enquote (text : List Char) : List Char :=
  quote :: (doubleQuotes text ++ [quote])

/-- The content of a quoted run whose opening quote has been read, and the text after
its closing quote; nothing if the run is not closed. -/
def readQuoted : List Char → Option (List Char × List Char)
  | [] => none
  | [c] => if c = quote then some ([], []) else none
  | c :: next :: rest =>
    if c = quote then
      if next = quote then (readQuoted rest).map fun (content, after) => (quote :: content, after)
      else some ([], next :: rest)
    else (readQuoted (next :: rest)).map fun (content, after) => (c :: content, after)

theorem readQuoted_length_lt {text content after : List Char}
    (h : readQuoted text = some (content, after)) : after.length < text.length := by
  fun_induction readQuoted text generalizing content after with
  | case1 => simp at h
  | case2 => simp_all
  | case3 => simp at h
  | case4 rest ih =>
    obtain ⟨⟨content', after'⟩, found, same⟩ := Option.map_eq_some_iff.1 h
    obtain ⟨rfl, rfl⟩ := Prod.mk.inj same
    have := ih found
    simp only [List.length_cons]
    omega
  | case5 => simp_all
  | case6 c next rest _ ih =>
    obtain ⟨⟨content', after'⟩, found, same⟩ := Option.map_eq_some_iff.1 h
    obtain ⟨rfl, rfl⟩ := Prod.mk.inj same
    have := ih found
    simp only [List.length_cons] at this ⊢
    omega

/-- The first or the last character is white space. -/
def hasBlankEnd (text : List Char) : Bool :=
  text.head?.any isSpace || text.getLast?.any isSpace

/-- A text that must be quoted to be one element among elements with the given
delimiters. -/
def needsQuotes (delimiters : List Char) (text : List Char) : Bool :=
  text.isEmpty || text.any delimiters.contains || text.contains quote || hasBlankEnd text

/-- The text in the form in which the splitter returns it as one element. -/
def escape (delimiters : List Char) (text : List Char) : List Char :=
  if needsQuotes delimiters text then enquote text else text

end Settings.Text
