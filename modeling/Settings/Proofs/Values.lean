import Settings.Value.Basic

/-!
Well-typed values, and the leaves of nested lists.

`Value.HasTag` says when a value has a type, list layer by list layer, without any
reference to coercion.  Conditions on everything inside a value, at whatever depth,
are stated on its leaves, so that they need no recursion of their own.
-/

namespace Settings.Value

/-- The value has the type: a scalar has its own type, a member that of its set, and a list
is uniform. -/
inductive HasTag : Value → Tag → Prop where
  | int (value : Int32) : HasTag (.int value) .int
  | long (value : Int64) : HasTag (.long value) .long
  | bool (value : Bool) : HasTag (.bool value) .bool
  | float (value : Binary .single) : HasTag (.float value) .float
  | double (value : Binary .double) : HasTag (.double value) .double
  | text (value : String) : HasTag (.text value) .text
  | secret (value : Secret) : HasTag (.secret value) .secret
  | member (value : EnumMember) : HasTag (.member value) (.member value.set)
  | duration (value : Duration) : HasTag (.duration value) .duration
  | memorySize (value : MemorySize) : HasTag (.memorySize value) .memorySize
  | map (entries : Table String) : HasTag (.map entries) .map
  | list {elements : List Value} {element : Tag}
      (each : ∀ value ∈ elements, HasTag value element) :
      HasTag (.list elements) (.list element)

mutual

/-- What a value holds below all of its list layers. -/
def leaves : Value → List Value
  | .list elements => leavesAll elements
  | value => [value]

/-- The leaves of the elements of a list. -/
def leavesAll : List Value → List Value
  | [] => []
  | value :: rest => leaves value ++ leavesAll rest

end

theorem mem_leavesAll {leaf : Value} {elements : List Value} :
    leaf ∈ leavesAll elements ↔ ∃ value ∈ elements, leaf ∈ leaves value := by
  induction elements with
  | nil => simp [leavesAll]
  | cons value rest ih => simp [leavesAll, ih]

/-- The leaves of an element are leaves of the list. -/
theorem mem_leaves_list {leaf value : Value} {elements : List Value} (listed : value ∈ elements)
    (inside : leaf ∈ leaves value) : leaf ∈ leaves (.list elements) := by
  rw [leaves]
  exact mem_leavesAll.2 ⟨value, listed, inside⟩

/-- A scalar is its own leaf. -/
theorem HasTag.mem_leaves {tag : Tag} {value : Value} (typed : value.HasTag tag)
    (scalar : tag.isList = false) : value ∈ value.leaves := by
  cases typed with
  | list each => cases scalar
  | _ => simp [leaves]

end Settings.Value
