import Groundwork.Yaml.Token

/-!
# Nodes of a document

The tree of scalars, sequences and mappings that a document's tokens denote. A block collection is
closed by its own token, except a sequence that is the value of a key and stands at the key's own
column.
-/

namespace Groundwork.Yaml

/-- What a node may be marked with. -/
structure Marks where
  /-- The name by which aliases refer to the node. -/
  anchor : Option Text := none
  /-- The address of the node's tag; `!` alone leaves the choice to the node's text. -/
  tag : Option Text := none
  deriving DecidableEq, Repr

/-- A node of a document. -/
inductive Node where
  | reference (name : Text)
  | scalar (marks : Marks) (text : Text) (plain : Bool)
  /-- A scalar of which some parts are no characters. -/
  | brokenScalar (marks : Marks) (text : Text)
  | sequence (marks : Marks) (items : List Node)
  | mapping (marks : Marks) (entries : List (Node × Node))
  deriving Repr

namespace Node

/-- The node where nothing is written. -/
def empty (marks : Marks := {}) : Node :=
  .scalar marks [] (marks.tag.isNone || marks.tag = some ['!'])

end Node

/-- Addresses by their short forms. -/
abbrev Handles := List (Text × Text)

/-- The short forms that need no directive. -/
def standardHandles : Handles := [("!", "!"), ("!!", "tag:yaml.org,2002:")]

/-- The address of a tag; its short form has to be known. -/
def tagAddress? (handles : Handles) (handle : Option Text) (rest : Text) : Option Text :=
  match handle with
  | none => some rest
  | some handle => (handles.lookup handle).map (· ++ rest)

/-- The marks at the front of the tokens: an anchor and a tag, in either order. -/
def marks? (handles : Handles) : List Token → Option (Marks × List Token)
  | .anchor name :: .tag handle rest :: tokens =>
    (tagAddress? handles handle rest).map fun tag => (⟨some name, some tag⟩, tokens)
  | .tag handle rest :: .anchor name :: tokens =>
    (tagAddress? handles handle rest).map fun tag => (⟨some name, some tag⟩, tokens)
  | .anchor name :: tokens => some (⟨some name, none⟩, tokens)
  | .tag handle rest :: tokens =>
    (tagAddress? handles handle rest).map fun tag => (⟨none, some tag⟩, tokens)
  | tokens => some ({}, tokens)

/-- The token at the front is one of the given ones. -/
def startsWith (ends : List Token) (tokens : List Token) : Bool :=
  tokens.head?.any ends.contains

mutual

/-- A node at the front of the tokens. In a block, block collections are allowed; as the value of
    a key, so is a sequence that is not indented. The nesting of calls is less than twice the
    number of tokens, which `fuel` bounds. -/
def node? (handles : Handles) (inBlock asValue : Bool) :
    (fuel : Nat) → List Token → Option (Node × List Token)
  | 0, _ => none
  | _, .reference name :: rest => some (.reference name, rest)
  | fuel + 1, tokens => do
    let (marks, tokens) ← marks? handles tokens
    match tokens with
    | .scalar text plain :: rest =>
      return (.scalar marks text (plain && marks.tag.isNone || marks.tag = some ['!']), rest)
    | .brokenScalar text :: rest => return (.brokenScalar marks text, rest)
    | .flowSequenceStart :: rest =>
      let (items, rest) ← flowItems? handles fuel true rest
      return (.sequence marks items, rest)
    | .flowMappingStart :: rest =>
      let (entries, rest) ← flowEntries? handles fuel true rest
      return (.mapping marks entries, rest)
    | .blockEntry :: _ =>
      if asValue then
        let (items, rest) ← looseItems? handles fuel tokens
        return (.sequence marks items, rest)
      else if marks ≠ {} then return (Node.empty marks, tokens)
      else none
    | .blockSequenceStart :: rest =>
      if inBlock then
        let (items, rest) ← blockItems? handles fuel rest
        return (.sequence marks items, rest)
      else if marks ≠ {} then return (Node.empty marks, tokens)
      else none
    | .blockMappingStart :: rest =>
      if inBlock then
        let (entries, rest) ← blockEntries? handles fuel rest
        return (.mapping marks entries, rest)
      else if marks ≠ {} then return (Node.empty marks, tokens)
      else none
    | _ => if marks ≠ {} then return (Node.empty marks, tokens) else none

/-- A node, or the empty node if one of the given tokens follows. -/
def nodeUnless? (handles : Handles) (inBlock asValue : Bool) (ends : List Token) :
    (fuel : Nat) → List Token → Option (Node × List Token)
  | 0, _ => none
  | fuel + 1, tokens =>
    if startsWith ends tokens then some (Node.empty, tokens)
    else node? handles inBlock asValue fuel tokens

/-- The items of a block sequence, up to its end. -/
def blockItems? (handles : Handles) :
    (fuel : Nat) → List Token → Option (List Node × List Token)
  | 0, _ => none
  | _, .blockEnd :: rest => some ([], rest)
  | fuel + 1, .blockEntry :: rest => do
    let (item, rest) ← nodeUnless? handles true false [.blockEntry, .blockEnd] fuel rest
    let (items, rest) ← blockItems? handles fuel rest
    return (item :: items, rest)
  | _, _ => none

/-- The items of a sequence that is not indented, which ends where no further item begins. -/
def looseItems? (handles : Handles) :
    (fuel : Nat) → List Token → Option (List Node × List Token)
  | 0, _ => none
  | fuel + 1, .blockEntry :: rest => do
    let (item, rest) ←
      nodeUnless? handles true false [.blockEntry, .key, .value, .blockEnd] fuel rest
    let (items, rest) ← looseItems? handles fuel rest
    return (item :: items, rest)
  | _, tokens => some ([], tokens)

/-- The value after a key, or the empty node if there is none. -/
def valueAfter? (handles : Handles) (inBlock : Bool) (ends : List Token) :
    (fuel : Nat) → List Token → Option (Node × List Token)
  | 0, _ => none
  | fuel + 1, .value :: rest => nodeUnless? handles inBlock inBlock ends fuel rest
  | _, tokens => some (Node.empty, tokens)

/-- The entries of a block mapping, up to its end. -/
def blockEntries? (handles : Handles) :
    (fuel : Nat) → List Token → Option (List (Node × Node) × List Token)
  | 0, _ => none
  | _, .blockEnd :: rest => some ([], rest)
  | fuel + 1, .key :: rest => do
    let (key, rest) ← nodeUnless? handles true true [.key, .value, .blockEnd] fuel rest
    let (value, rest) ← valueAfter? handles true [.key, .value, .blockEnd] fuel rest
    let (entries, rest) ← blockEntries? handles fuel rest
    return ((key, value) :: entries, rest)
  | _, _ => none

/-- The items of a sequence in brackets, up to its end. An item may be a single entry of a
    mapping. -/
def flowItems? (handles : Handles) :
    (fuel : Nat) → (first : Bool) → List Token → Option (List Node × List Token)
  | 0, _, _ => none
  | _, _, .flowSequenceEnd :: rest => some ([], rest)
  | fuel + 1, first, tokens => do
    let tokens ←
      if first then some tokens
      else match tokens with
        | .flowEntry :: rest => some rest
        | _ => none
    match tokens with
    | .flowSequenceEnd :: rest => return ([], rest)
    | .key :: rest =>
      let (key, rest) ←
        nodeUnless? handles false false [.value, .flowEntry, .flowSequenceEnd] fuel rest
      let (value, rest) ← valueAfter? handles false [.flowEntry, .flowSequenceEnd] fuel rest
      let (items, rest) ← flowItems? handles fuel false rest
      return (.mapping {} [(key, value)] :: items, rest)
    | _ =>
      let (item, rest) ← node? handles false false fuel tokens
      let (items, rest) ← flowItems? handles fuel false rest
      return (item :: items, rest)

/-- The entries of a mapping in braces, up to its end. -/
def flowEntries? (handles : Handles) :
    (fuel : Nat) → (first : Bool) → List Token → Option (List (Node × Node) × List Token)
  | 0, _, _ => none
  | _, _, .flowMappingEnd :: rest => some ([], rest)
  | fuel + 1, first, tokens => do
    let tokens ←
      if first then some tokens
      else match tokens with
        | .flowEntry :: rest => some rest
        | _ => none
    match tokens with
    | .flowMappingEnd :: rest => return ([], rest)
    | .key :: rest =>
      let (key, rest) ←
        nodeUnless? handles false false [.value, .flowEntry, .flowMappingEnd] fuel rest
      let (value, rest) ← valueAfter? handles false [.flowEntry, .flowMappingEnd] fuel rest
      let (entries, rest) ← flowEntries? handles fuel false rest
      return ((key, value) :: entries, rest)
    | _ =>
      let (key, rest) ← node? handles false false fuel tokens
      let (entries, rest) ← flowEntries? handles fuel false rest
      return ((key, Node.empty) :: entries, rest)

end

/-- The short forms that the directives at the front declare, and the tokens after the directives.
    Only the first major version is known, and nothing may be declared twice. -/
def directives? (versioned : Bool) (declared : Handles) :
    List Token → Option (Handles × List Token)
  | .version major :: rest =>
    if versioned || major ≠ 1 then none else directives? true declared rest
  | .tagHandle handle base :: rest =>
    if (declared.lookup handle).isSome then none
    else directives? versioned ((handle, base) :: declared) rest
  | .otherDirective :: rest => directives? versioned declared rest
  | tokens => some (declared, tokens)

/-- The tokens that directives consist of. -/
def isDirective : Token → Bool
  | .version _ | .tagHandle _ _ | .otherDirective => true
  | _ => false

/-- After the contents of the only document: the mark of its end may follow, any number of times,
    and nothing else. -/
def endsStream : List Token → Bool
  | [.streamEnd] => true
  | .documentEnd :: rest => endsStream rest
  | _ => false

/-- The contents of a document that begins with a mark or with directives; empty if another mark
    or the end follows at once. -/
def markedDocument? (fuel : Nat) (tokens : List Token) : Option (Option Node) := do
  let (declared, tokens) ← directives? false [] tokens
  match tokens with
  | .documentStart :: rest =>
    let opening := rest.head?
    if opening.any isDirective || startsWith [.documentStart, .documentEnd, .streamEnd] rest then
      if endsStream rest then return some Node.empty else none
    else
      let (node, rest) ← node? (declared ++ standardHandles) true false fuel rest
      if endsStream rest then return some node else none
  | _ => none

/-- The node of a document's tokens; no node if the document is empty. Nothing if the tokens are
    no single document. -/
def document? (tokens : List Token) : Option (Option Node) :=
  let fuel := 3 * tokens.length + 3
  match tokens with
  | [] => none
  | [.streamEnd] => some none
  | first :: _ =>
    if first = .documentStart || isDirective first then markedDocument? fuel tokens
    else do
      let (node, rest) ← node? standardHandles true false fuel tokens
      if endsStream rest then return some node else none

end Groundwork.Yaml
