import QueryGateway.Config.Document
import QueryGateway.Yaml.Token

/-! Documents from their tokens.

A node may carry an anchor, and a reference stands for the node that last had its anchor
before it. A tag is kept with a scalar and passed over before a collection. A text holds one
document at most. -/
namespace QueryGateway.Config

open Yaml

namespace Document

/-! ### The state of the reader -/

/-- The tokens that are left, the anchors so far, each with its node once that is complete,
and the handles that tags may have, with what they stand for. -/
structure Source where
  tokens : List Token
  anchors : List (List Char × Option Document) := []
  handles : List (List Char × List UInt8) :=
    [([], []), (['!'], Text.Utf8.encode "!"), (['!', '!'], Text.Utf8.encode (coreTag ""))]

/-- A reading that may fail. -/
abbrev Reading := StateT Source Option

namespace Reading

/-- The next token. -/
def peek : Reading (Option Token) := return (← get).tokens.head?

/-- Passes over the next token. -/
def drop : Reading Unit := modify fun s => { s with tokens := s.tokens.tail }

/-- Passes over the next token if it is this one, and tells whether it was. -/
def accept (t : Token) : Reading Bool := do
  if (← peek) = some t then
    drop
    return true
  return false

/-- Whether the next token is one of these. -/
def nextIn (ts : List Token) : Reading Bool := return (← peek).any ts.contains

/-- Passes over an anchor, and gives its name. -/
def anchor : Reading (Option (List Char)) := do
  match ← peek with
  | some (.anchor name) =>
    drop
    return some name
  | _ => return none

/-- Passes over a tag, and gives it in full. Its handle has to be known. -/
def tag : Reading (Option String) := do
  match ← peek with
  | some (.tag handle suffix) =>
    match (← get).handles.lookup handle with
    | none => failure
    | some stem =>
      drop
      return some (Text.Utf8.decodeLossy (stem ++ suffix))
  | _ => return none

/-- Passes over an anchor and a tag in any order. -/
def properties : Reading (Option (List Char) × Option String) := do
  match ← anchor with
  | some name => return (some name, ← tag)
  | none =>
    match ← tag with
    | some t => return (← anchor, some t)
    | none => return (none, none)

/-- The node of a reference. -/
def resolve (name : List Char) : Reading Document := do
  match (← get).anchors.lookup name with
  | some node => return node.getD unreadable
  | none => failure

/-- Reads a node and gives it an anchor. -/
def anchored (name : Option (List Char)) (read : Reading Document) : Reading Document := do
  match name with
  | none => read
  | some name =>
    let before := (← get).anchors.length
    modify fun s => { s with anchors := (name, none) :: s.anchors }
    let node ← read
    modify fun s =>
      { s with anchors := s.anchors.set (s.anchors.length - 1 - before) (name, some node) }
    return node

/-- The comma before every entry of a flow collection but the first. -/
def separator (first : Bool) : Reading Unit := do
  if first then return ()
  if !(← accept .flowEntry) then failure

end Reading

open Reading

/-! ### Nodes -/

/-- A scalar as a document. -/
def ofScalar (style : Style) (tag : Option String) (text : List Char) : Document :=
  let style := match style with
    | .plain => .plain
    | .quoted => .quoted
    | .block => .block
  .scalar style tag (String.ofList text)

mutual

/-- A node. Block collections may stand outside of flow collections only, and a block
sequence without indentation only as a key or a value. -/
def node (block unindented : Bool) : Nat → Reading Document
  | 0 => failure
  | fuel + 1 => do
    if let some (.reference name) ← peek then
      drop
      resolve name
    else
      let (name, tag) ← properties
      anchored name do
        match ← peek with
        | some (.scalar style text) =>
          drop
          return ofScalar style tag text
        | some .flowSequenceStart =>
          drop
          return .sequence false (← flowItems true fuel)
        | some .flowMappingStart =>
          drop
          return .mapping (← flowEntries true fuel)
        | t =>
          if unindented && t = some .blockEntry then
            return .sequence false (← unindentedItems fuel)
          else if block && t = some .blockSequenceStart then
            drop
            return .sequence false (← blockItems fuel)
          else if block && t = some .blockMappingStart then
            drop
            return .mapping (← blockEntries fuel)
          else if name.isSome || tag.isSome then return ofScalar .plain tag []
          else failure

/-- A node, unless one of these tokens comes first: then there is nothing. -/
def nodeUnless (block unindented : Bool) (ts : List Token) : Nat → Reading Document
  | 0 => failure
  | fuel + 1 => do
    if ← nextIn ts then return nothing
    node block unindented fuel

/-- The items of a block sequence. -/
def blockItems : Nat → Reading (List Document)
  | 0 => failure
  | fuel + 1 => do
    if ← accept .blockEnd then return []
    if !(← accept .blockEntry) then failure
    let item ← nodeUnless true false [.blockEntry, .blockEnd] fuel
    return item :: (← blockItems fuel)

/-- The items of a block sequence without indentation. -/
def unindentedItems : Nat → Reading (List Document)
  | 0 => failure
  | fuel + 1 => do
    if !(← accept .blockEntry) then return []
    let item ← nodeUnless true false [.blockEntry, .key, .value, .blockEnd] fuel
    return item :: (← unindentedItems fuel)

/-- The entries of a block mapping. -/
def blockEntries : Nat → Reading (List (Document × Document))
  | 0 => failure
  | fuel + 1 => do
    if ← accept .blockEnd then return []
    if !(← accept .key) then failure
    let key ← nodeUnless true true [.key, .value, .blockEnd] fuel
    let value ←
      if ← accept .value then nodeUnless true true [.key, .value, .blockEnd] fuel
      else pure nothing
    return (key, value) :: (← blockEntries fuel)

/-- The items of a flow sequence; a key and a value without braces are a mapping. -/
def flowItems (first : Bool) : Nat → Reading (List Document)
  | 0 => failure
  | fuel + 1 => do
    if ← accept .flowSequenceEnd then return []
    separator first
    if ← accept .flowSequenceEnd then return []
    let item ←
      if ← accept .key then
        let key ←
          if ← nextIn [.value, .flowEntry, .flowSequenceEnd] then
            drop
            pure nothing
          else node false false fuel
        let value ←
          if ← accept .value then nodeUnless false false [.flowEntry, .flowSequenceEnd] fuel
          else pure nothing
        pure (.mapping [(key, value)])
      else node false false fuel
    return item :: (← flowItems false fuel)

/-- The entries of a flow mapping; a key alone has nothing as its value. -/
def flowEntries (first : Bool) : Nat → Reading (List (Document × Document))
  | 0 => failure
  | fuel + 1 => do
    if ← accept .flowMappingEnd then return []
    separator first
    if ← accept .flowMappingEnd then return []
    let entry ←
      if ← accept .key then
        let key ← nodeUnless false false [.value, .flowEntry, .flowMappingEnd] fuel
        let value ←
          if ← accept .value then nodeUnless false false [.flowEntry, .flowMappingEnd] fuel
          else pure nothing
        pure (key, value)
      else pure (← node false false fuel, nothing)
    return entry :: (← flowEntries false fuel)

end

/-! ### Documents -/

/-- Passes over directives. There may be one version, and one tag for each handle, which then
stands for something else than it did. -/
def directives (version : Bool) (handles : List (List Char)) : Nat → Reading Unit
  | 0 => failure
  | fuel + 1 => do
    match ← peek with
    | some .versionDirective =>
      if version then failure
      drop
      directives true handles fuel
    | some (.tagDirective handle stem) =>
      if handles.contains handle then failure
      drop
      modify fun s => { s with handles := (handle, stem) :: s.handles }
      directives version (handle :: handles) fuel
    | _ => return ()

/-- Passes over marks of a document's end. -/
def ends : Nat → Reading Unit
  | 0 => failure
  | fuel + 1 => do if ← accept .documentEnd then ends fuel

/-- The only document. -/
def document (fuel : Nat) : Reading Document := do
  let start := (← get).tokens.length
  directives false [] fuel
  let afterDirectives := (← get).tokens.length < start
  if ← accept .documentStart then
    let d ←
      if (← peek).isNone || (← nextIn [.documentStart, .documentEnd]) then pure nothing
      else node true false fuel
    ends fuel
    return d
  if afterDirectives then failure
  if (← peek).isNone then return nothing
  let d ← node true false fuel
  ends fuel
  return d

/-- The document of tokens, all of which it takes. -/
def ofTokens? (ts : List Token) : Option Document := do
  let (d, s) ← (document (4 * ts.length + 4)).run { tokens := ts }
  if s.tokens.isEmpty then some d else none

/-- The document that a text holds. -/
def read (text : String) : Option Document := tokens? text.toList >>= ofTokens?

end Document

end QueryGateway.Config
