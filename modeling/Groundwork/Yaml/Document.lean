import Groundwork.Data.Base64
import Groundwork.Yaml.Node
import Groundwork.Yaml.Scalar

/-!
# Values of documents

The value that a document denotes. Tags other than the standard ones are refused, an alias stands
for the value of the node that its name anchors, and a mapping may take over the entries of others.
-/

namespace Groundwork.Yaml

/-- The part of the standard tags that tells them apart. -/
def standardTag? (tag : Text) : Option Text := Text.after? "tag:yaml.org,2002:" tag

/-- Values by the names that anchor them. -/
abbrev Anchors := List (Text × Value)

/-- A step of evaluation, which may anchor values. -/
abbrev Evaluation := StateT Anchors (Except Failure)

/-- Anchor a value; a name anchors only once. -/
def anchored (marks : Marks) (value : Value) : Evaluation Value := do
  match marks.anchor with
  | none => return value
  | some name =>
    if ((← get).lookup name).isSome then throw .settingsMalformed
    modify ((name, value) :: ·)
    return value

/-- The value of a scalar with a standard tag. -/
def taggedScalar (tag text : Text) : Except Failure Value :=
  if tag = "str" then .ok (.text text)
  else if tag = "null" then .ok .null
  else if tag = "bool" then
    let word := Text.lower text
    if trueWords.contains word then .ok (.truth true)
    else if falseWords.contains word then .ok (.truth false)
    else .error (.truthUnknown word)
  else if tag = "int" then (wholeOf text).map .whole
  else if tag = "float" then realOf text
  else if tag = "timestamp" then
    match timestamp? text with
    | none => .error .unsuitableValue
    | some t => do
      t.check
      return .moment
  else if tag = "binary" then
    match Base64.decode? text with
    | none => .error .settingsMalformed
    | some content => .ok (.bytes content)
  else .error .settingsMalformed

/-- The value of a scalar. -/
def scalarValue (marks : Marks) (text : Text) (plain : Bool) : Except Failure Value :=
  if plain then valueOf text
  else match marks.tag with
    | none => .ok (.text text)
    | some tag =>
      match standardTag? tag with
      | none => .error .settingsMalformed
      | some tag => taggedScalar tag text

/-- A collection's tag is absent, left to the node, or the given standard tag. -/
def isTagged (names : List Text) (marks : Marks) : Bool :=
  match marks.tag with
  | none => true
  | some tag => tag = ['!'] || (standardTag? tag).any names.contains

/-- The value may be a key. -/
def isKey : Value → Bool
  | .list _ | .mapping _ => false
  | _ => true

/-- The node is the sign that takes over the entries of other mappings. -/
def isMerge : Node → Bool
  | .scalar marks text plain =>
    (plain && kindOf text = .merge) || marks.tag = some "tag:yaml.org,2002:merge"
  | _ => false

/-- The entries that a value under the merging sign contributes. Of several mappings the first
    counts most, so it comes last. -/
def mergedEntries : Value → Except Failure (List (Value × Value))
  | .mapping entries => .ok entries
  | .list items => do
    let parts ← items.mapM fun
      | .mapping entries => .ok entries
      | _ => .error Failure.settingsMalformed
    return parts.reverse.flatten
  | _ => .error .settingsMalformed

/-- The value of a key: the sign for a default value is an ordinary text there. -/
def keyText? : Node → Option Value
  | .scalar marks text plain =>
    if plain && kindOf text = .defaultValue && marks.tag.isNone then some (.text text) else none
  | _ => none

mutual

/-- The value of a node. -/
def nodeValue : Node → Evaluation Value
  | .reference name => do
    match (← get).lookup name with
    | some value => return value
    | none => throw .settingsMalformed
  | .scalar marks text plain => do
    let value ← (scalarValue marks text plain : Except Failure Value)
    anchored marks value
  | .brokenScalar marks text => do
    let value ← (scalarValue marks text (marks.tag = some ['!']) : Except Failure Value)
    anchored marks value.broken
  | .sequence marks items => do
    if !isTagged ["seq", "omap", "pairs"] marks then throw .settingsMalformed
    let values ← itemValues items
    anchored marks (.list values)
  | .mapping marks entries => do
    if !isTagged ["map", "set"] marks then throw .settingsMalformed
    let (taken, own) ← entryValues entries
    anchored marks
      (if isTagged ["map"] marks then .mapping (taken ++ own) else .list (own.map Prod.fst))

/-- The values of a sequence's items. -/
def itemValues : List Node → Evaluation (List Value)
  | [] => return []
  | item :: items => do
    let value ← nodeValue item
    return value :: (← itemValues items)

/-- The entries that a mapping takes over, and its own. -/
def entryValues : List (Node × Node) → Evaluation (List (Value × Value) × List (Value × Value))
  | [] => return ([], [])
  | (key, node) :: entries => do
    if isMerge key then
      let merged ← mergedEntries (← nodeValue node)
      let (taken, own) ← entryValues entries
      return (merged ++ taken, own)
    else
      let key ← match keyText? key with
        | some text => pure text
        | none => nodeValue key
      if !isKey key then throw .settingsMalformed
      let value ← nodeValue node
      let (taken, own) ← entryValues entries
      return (taken, (key, value) :: own)

end

/-- The most collections that may stand within each other. -/
def nestingLimit : Nat := 485

/-- The token opens a collection. -/
def opensCollection (token : Token) : Bool :=
  [Token.blockSequenceStart, .blockMappingStart, .flowSequenceStart, .flowMappingStart].contains
    token

/-- The token closes a collection. -/
def closesCollection (token : Token) : Bool :=
  [Token.blockEnd, .flowSequenceEnd, .flowMappingEnd].contains token

/-- The tokens open more collections within each other than `depth`. -/
def exceedsNesting : (depth : Nat) → List Token → Bool
  | _, [] => false
  | depth, token :: tokens =>
    if opensCollection token then
      match depth with
      | 0 => true
      | depth + 1 => exceedsNesting depth tokens
    else exceedsNesting (if closesCollection token then depth + 1 else depth) tokens

/-- The value of a document; null if it is empty. -/
def parse (s : Text) : Except Failure Value := do
  let tokens ← tokens s
  if exceedsNesting nestingLimit tokens then throw .settingsTooDeep
  match ← orMalformed (document? tokens) with
  | none => return .null
  | some node =>
    let (value, _) ← (nodeValue node).run []
    return value

end Groundwork.Yaml
