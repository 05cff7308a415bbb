import Settings.Text.Quoted

/-!
Texts that trimming leaves alone.

Every text the library prints for a number, a size or a float begins and ends with a
character that is not white space, so its readers see it unchanged.
-/

namespace Settings.Text

theorem trimStart_of_head? {text : List Char}
    (solid : ∀ c, text.head? = some c → isSpace c = false) : trimStart text = text := by
  cases text with
  | nil => rfl
  | cons c rest => exact trimStart_cons_of_not_isSpace (solid c rfl) rest

theorem trimEnd_of_getLast? {text : List Char}
    (solid : ∀ c, text.getLast? = some c → isSpace c = false) : trimEnd text = text := by
  have reversed : trimStart text.reverse = text.reverse := by
    apply trimStart_of_head?
    intro c head
    apply solid c
    rw [← head, List.head?_reverse]
  unfold trimEnd
  unfold trimStart at reversed
  rw [reversed, List.reverse_reverse]

theorem hasBlankEnd_eq_false_iff {text : List Char} :
    hasBlankEnd text = false ↔
      (∀ c, text.head? = some c → isSpace c = false) ∧
        (∀ c, text.getLast? = some c → isSpace c = false) := by
  simp [hasBlankEnd, Option.any_eq_false]

/-- A text without white space at either end is its own trimmed form. -/
theorem trim_of_hasBlankEnd {text : List Char} (solid : hasBlankEnd text = false) :
    trim text = text := by
  obtain ⟨first, last⟩ := hasBlankEnd_eq_false_iff.1 solid
  rw [trim, trimStart_of_head? first, trimEnd_of_getLast? last]

/-- Trimming leaves no white space at the ends. -/
theorem hasBlankEnd_trim (text : List Char) : hasBlankEnd (trim text) = false := by
  have start : ∀ c, (trimStart text).head? = some c → isSpace c = false := by
    intro c head
    have first := List.head?_dropWhile_not isSpace text
    rw [← trimStart, head] at first
    exact first
  rw [hasBlankEnd_eq_false_iff]
  constructor
  · intro c head
    obtain ⟨behind, whole⟩ : trim text <+: trimStart text := by
      rw [trim, trimEnd, ← List.reverse_suffix, List.reverse_reverse]
      exact List.dropWhile_suffix _
    apply start c
    rw [← whole, List.head?_append, head]
    rfl
  · intro c last
    have first := List.head?_dropWhile_not isSpace (trimStart text).reverse
    rw [trim, trimEnd, List.getLast?_reverse] at last
    rw [last] at first
    exact first

theorem trim_trim (text : List Char) : trim (trim text) = trim text :=
  trim_of_hasBlankEnd (hasBlankEnd_trim text)

/-- Trimming adds no characters. -/
theorem mem_of_mem_trim {text : List Char} {c : Char} (member : c ∈ trim text) : c ∈ text := by
  have kept : c ∈ (trimStart text).reverse :=
    (List.dropWhile_sublist isSpace).subset (List.mem_reverse.1 member)
  exact (List.dropWhile_sublist isSpace).subset (List.mem_reverse.1 kept)

/-- No white space anywhere, hence none at the ends. -/
theorem hasBlankEnd_of_forall {text : List Char} (solid : ∀ c ∈ text, isSpace c = false) :
    hasBlankEnd text = false := by
  rw [hasBlankEnd_eq_false_iff]
  constructor
  · intro c head
    exact solid c (List.mem_of_head? head)
  · intro c last
    exact solid c (List.mem_of_getLast? last)

/-- The ends of a joined text are the start of its front and the end of its back. -/
theorem hasBlankEnd_append {front back : List Char} (frontSolid : hasBlankEnd front = false)
    (backSolid : hasBlankEnd back = false) (hasFront : front ≠ []) (hasBack : back ≠ [])
    (middle : List Char) : hasBlankEnd (front ++ (middle ++ back)) = false := by
  rw [hasBlankEnd_eq_false_iff] at frontSolid backSolid ⊢
  constructor
  · intro c head
    apply frontSolid.1 c
    cases front with
    | nil => exact absurd rfl hasFront
    | cons first rest => exact head
  · intro c last
    apply backSolid.2 c
    rw [← List.append_assoc, List.getLast?_append] at last
    cases found : back.getLast? with
    | none => exact absurd (List.getLast?_eq_none_iff.1 found) hasBack
    | some d => simpa [found] using last

end Settings.Text
