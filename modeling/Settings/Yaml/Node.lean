import Settings.Yaml.Token

/-!
The node that a list of tokens describes.

The readers below follow the grammar of the tokens: each one reads a node, or
the rest of a collection, and gives the tokens after it.  They descend at most a
bounded number of times between two tokens, which bounds their steps.
-/

namespace Settings.Yaml

/-- What may stand before a node: the anchor under which it can be repeated, and its tag with the
meaning of the handle.  Anchors are names in a text and numbers once they are resolved. -/
structure Attributes (ν : Type) where
  anchor : Option ν
  tag : Option (List Char)
deriving Repr, DecidableEq

/-- A node of a document. -/
inductive Node (ν : Type) where
  /-- The node with an anchor once more. -/
  | alias (anchor : ν)
  | scalar (attributes : Attributes ν) (isPlain : Bool) (content : List Char)
  | sequence (attributes : Attributes ν) (items : List (Node ν))
  | mapping (attributes : Attributes ν) (members : List (Node ν × Node ν))
deriving Inhabited

/-- A node as it is written, with names for anchors. -/
abbrev NamedNode := Node (List Char)

/-- Meanings of handles. -/
abbrev Handles := List (List Char × List Char)

namespace Node

/-- No anchor and no tag. -/
def noAttributes : Attributes (List Char) := ⟨none, none⟩

/-- The node that stands where none is written. -/
def empty : NamedNode := .scalar noAttributes true []

/-- The tag with the meaning of its handle, which must have one. -/
def resolveTag? (handles : Handles) (tag : TagText) : Option (List Char) :=
  if tag.handle.isEmpty then some tag.suffix
  else (handles.lookup tag.handle).map (· ++ tag.suffix)

/-- The anchor and the tag before a node, in either order, and the tokens after them. -/
def readAttributes? (handles : Handles) :
    List Token → Option (Attributes (List Char) × List Token)
  | .anchor name :: .tag tag :: rest => do
    return (⟨some name, some (← resolveTag? handles tag)⟩, rest)
  | .tag tag :: .anchor name :: rest => do
    return (⟨some name, some (← resolveTag? handles tag)⟩, rest)
  | .anchor name :: rest => some (⟨some name, none⟩, rest)
  | .tag tag :: rest => do return (⟨none, some (← resolveTag? handles tag)⟩, rest)
  | rest => some (noAttributes, rest)

/-- The tokens begin with one of some tokens. -/
def beginsWith (choices : List Token) (tokens : List Token) : Bool :=
  tokens.head?.any choices.contains

/-- A scalar.  The tag that consists of an exclamation mark only says nothing about it. -/
def ofScalar (attributes : Attributes (List Char)) (isPlain : Bool) (content : List Char) :
    NamedNode :=
  if attributes.tag == some ['!'] then .scalar { attributes with tag := none } isPlain content
  else .scalar attributes isPlain content

/-- The tokens after the comma before another entry of a collection in brackets. -/
def skipComma? (isFirst : Bool) (tokens : List Token) : Option (List Token) :=
  if isFirst then some tokens
  else
    match tokens with
    | .comma :: rest => some rest
    | _ => none

mutual

/-- The node at the start of the tokens, in at most `steps` steps.  A block collection may stand
where `block` holds, and a block sequence that is not indented where `unindented` holds. -/
def read? (handles : Handles) (steps : Nat) (block unindented : Bool) (tokens : List Token) :
    Option (NamedNode × List Token) :=
  match steps with
  | 0 => none
  | steps + 1 =>
    match tokens with
    | .alias name :: rest => some (.alias name, rest)
    | _ => do
      let (attributes, tokens) ← readAttributes? handles tokens
      match tokens with
      | .scalar isPlain content :: rest => return (ofScalar attributes isPlain content, rest)
      | .flowSequence :: rest =>
        let (items, rest) ← readFlowItems? handles steps true rest
        return (.sequence attributes items, rest)
      | .flowMapping :: rest =>
        let (members, rest) ← readFlowMembers? handles steps true rest
        return (.mapping attributes members, rest)
      | tokens =>
        if unindented && beginsWith [.item] tokens then
          let (items, rest) ← readUnindented? handles steps tokens
          return (.sequence attributes items, rest)
        else if block && beginsWith [.blockSequence] tokens then
          let (items, rest) ← readItems? handles steps tokens.tail
          return (.sequence attributes items, rest)
        else if block && beginsWith [.blockMapping] tokens then
          let (members, rest) ← readMembers? handles steps tokens.tail
          return (.mapping attributes members, rest)
        else if attributes == noAttributes then none
        else return (.scalar attributes true [], tokens)

/-- The node at the start of the tokens, or the empty node if they begin with one of the tokens
that may follow it. -/
def readOrEmpty? (handles : Handles) (steps : Nat) (block unindented : Bool)
    (followers : List Token) (tokens : List Token) : Option (NamedNode × List Token) :=
  match steps with
  | 0 => none
  | steps + 1 =>
    if beginsWith followers tokens then some (empty, tokens)
    else read? handles steps block unindented tokens

/-- The value at the start of the tokens, which is empty if they begin with no colon. -/
def readValue? (handles : Handles) (steps : Nat) (block : Bool) (followers : List Token)
    (tokens : List Token) : Option (NamedNode × List Token) :=
  match steps with
  | 0 => none
  | steps + 1 =>
    match tokens with
    | .value :: rest => readOrEmpty? handles steps block block followers rest
    | _ => some (empty, tokens)

/-- The items of a block sequence. -/
def readItems? (handles : Handles) (steps : Nat) (tokens : List Token) :
    Option (List NamedNode × List Token) :=
  match steps with
  | 0 => none
  | steps + 1 =>
    match tokens with
    | .blockEnd :: rest => some ([], rest)
    | .item :: rest => do
      let (item, rest) ← readOrEmpty? handles steps true false [.item, .blockEnd] rest
      let (items, rest) ← readItems? handles steps rest
      return (item :: items, rest)
    | _ => none

/-- The items of a block sequence that is not indented, which ends with its last item. -/
def readUnindented? (handles : Handles) (steps : Nat) (tokens : List Token) :
    Option (List NamedNode × List Token) :=
  match steps with
  | 0 => none
  | steps + 1 =>
    match tokens with
    | .item :: rest => do
      let (item, rest) ←
        readOrEmpty? handles steps true false [.item, .key, .value, .blockEnd] rest
      let (items, rest) ← readUnindented? handles steps rest
      return (item :: items, rest)
    | _ => some ([], tokens)

/-- The members of a block mapping. -/
def readMembers? (handles : Handles) (steps : Nat) (tokens : List Token) :
    Option (List (NamedNode × NamedNode) × List Token) :=
  match steps with
  | 0 => none
  | steps + 1 =>
    match tokens with
    | .blockEnd :: rest => some ([], rest)
    | .key :: rest => do
      let (key, rest) ← readOrEmpty? handles steps true true [.key, .value, .blockEnd] rest
      let (value, rest) ← readValue? handles steps true [.key, .value, .blockEnd] rest
      let (members, rest) ← readMembers? handles steps rest
      return ((key, value) :: members, rest)
    | _ => none

/-- The items of a sequence in brackets.  A pair is a mapping with one member; if its mark is
followed by no key, the token after the mark is passed over. -/
def readFlowItems? (handles : Handles) (steps : Nat) (isFirst : Bool) (tokens : List Token) :
    Option (List NamedNode × List Token) :=
  match steps with
  | 0 => none
  | steps + 1 =>
    if beginsWith [.flowSequenceEnd] tokens then some ([], tokens.tail)
    else do
      let tokens ← skipComma? isFirst tokens
      match tokens with
      | .flowSequenceEnd :: rest => return ([], rest)
      | .key :: rest =>
        let ends := beginsWith [.value, .comma, .flowSequenceEnd] rest
        let (key, rest) ←
          if ends then some (empty, rest.tail) else read? handles steps false false rest
        let (value, rest) ← readValue? handles steps false [.comma, .flowSequenceEnd] rest
        let (items, rest) ← readFlowItems? handles steps false rest
        return (.mapping noAttributes [(key, value)] :: items, rest)
      | tokens =>
        let (item, rest) ← read? handles steps false false tokens
        let (items, rest) ← readFlowItems? handles steps false rest
        return (item :: items, rest)

/-- The members of a mapping in brackets. -/
def readFlowMembers? (handles : Handles) (steps : Nat) (isFirst : Bool) (tokens : List Token) :
    Option (List (NamedNode × NamedNode) × List Token) :=
  match steps with
  | 0 => none
  | steps + 1 =>
    if beginsWith [.flowMappingEnd] tokens then some ([], tokens.tail)
    else do
      let tokens ← skipComma? isFirst tokens
      match tokens with
      | .flowMappingEnd :: rest => return ([], rest)
      | .key :: rest =>
        let (key, rest) ←
          readOrEmpty? handles steps false false [.value, .comma, .flowMappingEnd] rest
        let (value, rest) ← readValue? handles steps false [.comma, .flowMappingEnd] rest
        let (members, rest) ← readFlowMembers? handles steps false rest
        return ((key, value) :: members, rest)
      | tokens =>
        let (key, rest) ← read? handles steps false false tokens
        let (members, rest) ← readFlowMembers? handles steps false rest
        return ((key, empty) :: members, rest)

end

end Node

/-- The directives at the start of the tokens, and the tokens after them. -/
def takeDirectives : List Token → List Directive × List Token
  | .directive directive :: rest =>
    let (directives, rest) := takeDirectives rest
    (directive :: directives, rest)
  | tokens => ([], tokens)

/-- The handles that directives give a meaning, in the same order. -/
def declaredHandles : List Directive → Handles
  | [] => []
  | .tag handle start :: rest => (handle, start) :: declaredHandles rest
  | .version .. :: rest => declaredHandles rest

/-- The versions that directives declare. -/
def declaredVersions : List Directive → List (Nat × Nat)
  | [] => []
  | .version major minor :: rest => (major, minor) :: declaredVersions rest
  | .tag .. :: rest => declaredVersions rest

/-- The directives declare at most one version, which must be a known one, and give no handle two
meanings. -/
def areConsistent (directives : List Directive) : Bool :=
  let versions := declaredVersions directives
  decide (versions.length ≤ 1) &&
    versions.all (fun version => version == (1, 1) || version == (1, 2)) &&
    decide ((declaredHandles directives).map Prod.fst).Nodup

/-- What the tags of the core schema begin with. -/
def coreStart : List Char := "tag:yaml.org,2002:".toList

/-- The meanings of handles under directives. -/
def handlesOf (directives : List Directive) : Handles :=
  declaredHandles directives ++ [(['!'], ['!']), (['!', '!'], coreStart)]

/-- The node of a document and the tokens after it, where nothing may be written for the node. -/
def readContent? (handles : Handles) (steps : Nat) (tokens : List Token) :
    Option (NamedNode × List Token) :=
  match tokens with
  | .directive _ :: _ => some (.empty, tokens)
  | _ =>
    Node.readOrEmpty? handles steps true false [.documentStart, .documentEnd, .textEnd] tokens

/-- The node of the only document of a text, or the empty node if the text holds none. -/
def Node.ofTokens? (tokens : List Token) : Option NamedNode := do
  let steps := 4 * tokens.length + 4
  let (directives, body) := takeDirectives tokens
  if body == [.textEnd] && directives.isEmpty then return .empty
  else
    let (node, rest) ←
      match body with
      | .documentStart :: rest =>
        if areConsistent directives then readContent? (handlesOf directives) steps rest else none
      | _ => if directives.isEmpty then read? (handlesOf []) steps true false body else none
    if rest.dropWhile (· == .documentEnd) == [.textEnd] then return node else none

/-- The node of the only document of a text. -/
def Node.ofText? (text : List Char) : Option NamedNode := do Node.ofTokens? (← tokens? text)

end Settings.Yaml
