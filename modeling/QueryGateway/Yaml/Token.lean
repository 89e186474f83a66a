import QueryGateway.Text.Utf8
import QueryGateway.Yaml.Scalar

/-! Tokens of a document in a notation of indented collections.

Indentation opens and closes block collections, so it gives tokens of its own. A key has no
sign in front of it: that a word was a key shows only at the colon behind it, on the same
line and at most 1024 characters later, and then the token for a key is put before the word,
and the start of the mapping before that if the key is the first one. -/
namespace QueryGateway.Yaml

/-- How a scalar is written: without quotes, between quotes or folded, or line by line. -/
inductive Style where
  | plain
  | quoted
  | block
  deriving DecidableEq, Repr

/-- A token. The text of a tag is in bytes, for it may be written byte by byte. -/
inductive Token where
  | versionDirective
  | tagDirective (handle : List Char) (stem : List UInt8)
  | documentStart
  | documentEnd
  | blockSequenceStart
  | blockMappingStart
  | blockEnd
  | flowSequenceStart
  | flowSequenceEnd
  | flowMappingStart
  | flowMappingEnd
  | blockEntry
  | flowEntry
  | key
  | value
  | reference (name : List Char)
  | anchor (name : List Char)
  | tag (handle : List Char) (suffix : List UInt8)
  | scalar (style : Style) (text : List Char)
  deriving DecidableEq, Repr

/-! ### Places -/

/-- A place in a text. -/
structure Cursor where
  rest : List Char
  line : Nat := 0
  column : Nat := 0
  offset : Nat := 0

namespace Cursor

/-- The place behind the next character or line end. -/
def next (c : Cursor) : Cursor :=
  match c.rest, lineEnd? c.rest with
  | [], _ => c
  | _, some (_, rest) => ⟨rest, c.line + 1, 0, c.offset + (c.rest.length - rest.length)⟩
  | _ :: rest, none => ⟨rest, c.line, c.column + 1, c.offset + 1⟩

/-- The place behind `n` characters or line ends. -/
def skip : Nat → Cursor → Cursor
  | 0, c => c
  | n + 1, c => skip n c.next

/-- The place at which only `rest` is left. -/
def moveTo (rest : List Char) (c : Cursor) : Cursor :=
  let n := c.rest.length - rest.length
  go n c
where
  /-- Steps on while more than `rest` is left. -/
  go : Nat → Cursor → Cursor
    | 0, c => c
    | n + 1, c => if c.rest.length ≤ rest.length then c else go n c.next

end Cursor

/-! ### The state of the reader -/

/-- A word that may turn out to be a key: the number of tokens before it, its place, and
whether it has to be one, since nothing else may stand where it does. -/
structure Candidate where
  position : Nat
  line : Nat
  column : Nat
  offset : Nat
  required : Bool

/-- The state between two tokens: the indentation of the innermost block collection, which is
negative outside of all, those of the collections around it, and for each open flow
collection, and for the block around them, the word that may be a key. -/
structure Lexer where
  place : Cursor
  tokens : Array Token := #[]
  indent : Int := -1
  outer : List Int := []
  candidate : Option Candidate := none
  around : List (Option Candidate) := []
  keyAllowed : Bool := true

namespace Lexer

/-- Whether a flow collection is open. -/
def inFlow (l : Lexer) : Bool := !l.around.isEmpty

def push (t : Token) (l : Lexer) : Lexer := { l with tokens := l.tokens.push t }

/-- Whether a candidate stands too far back to be a key. -/
def isStale (l : Lexer) (c : Candidate) : Bool :=
  c.line < l.place.line || c.offset + 1024 < l.place.offset

/-- Gives up a candidate, unless it has to be a key. -/
def giveUp? (c : Option Candidate) : Option Unit :=
  if c.any (·.required) then none else some ()

/-- Gives up the candidates that stand too far back. -/
def dropStale? (l : Lexer) : Option Lexer := do
  let drop (c : Option Candidate) : Option (Option Candidate) :=
    if c.any l.isStale then do giveUp? c; return none else some c
  return { l with candidate := ← drop l.candidate, around := ← l.around.mapM drop }

/-- Gives up the innermost candidate. -/
def dropCandidate? (l : Lexer) : Option Lexer := do
  giveUp? l.candidate
  return { l with candidate := none }

/-- Notes that the next token may start a key. -/
def markCandidate? (l : Lexer) : Option Lexer :=
  if l.keyAllowed then do
    giveUp? l.candidate
    let p := l.place
    let c : Candidate :=
      ⟨l.tokens.size, p.line, p.column, p.offset, !l.inFlow && l.indent = p.column⟩
    return { l with candidate := some c }
  else some l

/-- Opens a block collection at a column, unless one is open there. Its token goes to a
position among the tokens. -/
def openBlock (column position : Nat) (t : Token) (l : Lexer) : Lexer :=
  if l.inFlow || column ≤ l.indent then l
  else { l with
    indent := column, outer := l.indent :: l.outer
    tokens := l.tokens.insertIdxIfInBounds position t }

/-- Closes the block collections that are indented by more than `column`. -/
def closeBlocks (column : Int) (l : Lexer) : Lexer :=
  if l.inFlow then l else go l.outer.length l
where
  /-- Closes at most so many collections. -/
  go : Nat → Lexer → Lexer
    | 0, l => l
    | n + 1, l =>
      match l.outer with
      | [] => l
      | indent :: outer =>
        if column < l.indent then go n { l.push .blockEnd with indent := indent, outer := outer }
        else l

/-! ### Between tokens -/

/-- Passes over blanks, line ends and comments. A tab is no blank where a key may stand; a
byte order mark is one at the start of a line, and takes a column there. -/
def toNextToken : Nat → Lexer → Lexer
  | 0, l => l
  | fuel + 1, l =>
    match l.place.rest with
    | [] => l
    | c :: rest =>
      if c = '\ufeff' && l.place.column = 0 then
        toNextToken fuel { l with place := l.place.next }
      else if c = ' ' || (c = '\t' && (l.inFlow || !l.keyAllowed)) then
        toNextToken fuel { l with place := l.place.next }
      else if c = '#' then
        toNextToken fuel { l with place := l.place.moveTo (rest.dropWhile (!isBreak ·)) }
      else if isBreak c then
        toNextToken fuel { l with place := l.place.next, keyAllowed := l.keyAllowed || !l.inFlow }
      else l

/-! ### Names -/

/-- A character of the name of an anchor, a directive or a tag's handle. -/
def isNameChar (c : Char) : Bool := c.isAlphanum || c = '_' || c = '-'

/-- The name of an anchor, and what follows it. -/
def anchorName? (cs : List Char) : Option (List Char × List Char) :=
  let name := cs.takeWhile isNameChar
  let rest := cs.drop name.length
  if name.isEmpty then none
  else if startsBlank rest
      || rest.head?.any fun c => ['?', ':', ',', ']', '\x7d', '%', '@', '\x60'].contains c then
    some (name, rest)
  else none

/-- A character of a tag. -/
def isTagChar (c : Char) : Bool :=
  isNameChar c || ";/?:@&=+$.!~*'()".toList.contains c

/-- How many bytes of a character are still to come behind this one, of which `more` were
to come before it. -/
def bytesBehind? (more byte : Nat) : Option Nat :=
  if more ≠ 0 then if 0x80 ≤ byte && byte < 0xC0 then some (more - 1) else none
  else if byte < 0x80 then some 0
  else if byte < 0xC0 then none
  else if byte < 0xE0 then some 1
  else if byte < 0xF0 then some 2
  else if byte < 0xF8 then some 3
  else none

/-- The bytes of a tag, and what follows them. An escape stands for a byte and has two
hexadecimal digits; `more` escapes must come to complete a character. -/
def tagBytes? (verbatim : Bool) : (more : Nat) → List Char → Option (List UInt8 × List Char)
  | more, '%' :: a :: b :: rest => do
    let byte ← Text.Hex.byte? a b
    let (bytes, rest) ← tagBytes? verbatim (← bytesBehind? more byte.toNat) rest
    return (byte :: bytes, rest)
  | 0, c :: rest =>
    if c = '%' then none
    else if isTagChar c || (verbatim && [',', '[', ']'].contains c) then do
      let (bytes, rest) ← tagBytes? verbatim 0 rest
      return (c.toNat.toUInt8 :: bytes, rest)
    else some ([], c :: rest)
  | 0, [] => some ([], [])
  | _ + 1, _ => none

/-- The handle and the suffix of a tag, and what follows the tag. The handle is empty for a
verbatim tag, and for one that is nothing but its sign. -/
def tag? (flow : Bool) (cs : List Char) : Option (Token × List Char) := do
  let (handle, suffix, rest) ← match cs with
    | '<' :: body =>
      match ← tagBytes? true 0 body with
      | (suffix, '>' :: rest) => if suffix.isEmpty then none else some ([], suffix, rest)
      | _ => none
    | cs =>
      let name := cs.takeWhile isNameChar
      match cs.drop name.length with
      | '!' :: behind => do
        let (suffix, rest) ← tagBytes? false 0 behind
        if suffix.isEmpty then none else some ('!' :: name ++ ['!'], suffix, rest)
      | behind => do
        let (more, rest) ← tagBytes? false 0 behind
        let suffix := Text.Utf8.encodeChars name ++ more
        if suffix.isEmpty then some ([], Text.Utf8.encodeChars ['!'], rest)
        else some (['!'], suffix, rest)
  if startsBlank rest || (flow && rest.head? = some ',') then some (.tag handle suffix, rest)
  else none

/-! ### Directives -/

/-- What is left of a line behind a directive: nothing but blanks and a comment. -/
def lineRest? (cs : List Char) : Option (List Char) :=
  let cs := cs.dropWhile isBlank
  let cs := if cs.head? = some '#' then cs.dropWhile (!isBreak ·) else cs
  if cs.isEmpty || cs.head?.any isBreak then some cs else none

/-- A number of at most nine digits. -/
def versionNumber? (cs : List Char) : Option (Nat × List Char) :=
  let ds := cs.takeWhile Char.isDigit
  if ds.isEmpty || 9 < ds.length then none
  else some (ds.foldl (fun n c => n * 10 + (c.toNat - '0'.toNat)) 0, cs.drop ds.length)

/-- A directive, from the text behind its sign. -/
def directive? (cs : List Char) : Option (Token × List Char) := do
  let name := cs.takeWhile isNameChar
  let rest := cs.drop name.length
  if !startsBlank rest then none
  let rest := rest.dropWhile isBlank
  if name = "YAML".toList then
    let (major, rest) ← versionNumber? rest
    match rest with
    | '.' :: rest =>
      let (minor, rest) ← versionNumber? rest
      if major = 1 && (minor = 1 || minor = 2) then
        return (.versionDirective, ← lineRest? rest)
      else none
    | _ => none
  else if name = "TAG".toList then
    match rest with
    | '!' :: rest =>
      let handle := rest.takeWhile isNameChar
      let rest := rest.drop handle.length
      let (handle, rest) ← match rest with
        | '!' :: rest => some ('!' :: handle ++ ['!'], rest)
        | rest => if handle.isEmpty then some (['!'], rest) else none
      if !rest.head?.any isBlank then none
      let start := rest.dropWhile isBlank
      let (stem, rest) ← tagBytes? true 0 start
      if stem.isEmpty || !startsBlank rest then none
      return (.tagDirective handle stem, ← lineRest? rest)
    | _ => none
  else none

/-! ### Tokens -/

/-- Ends all that is open at the start of a document mark or a directive. -/
def endDocument? (l : Lexer) : Option Lexer := do
  let l ← (l.closeBlocks (-1)).dropCandidate?
  return { l with keyAllowed := false }

/-- Takes a token of one character. -/
def take (t : Token) (keyAllowed : Bool) (l : Lexer) : Lexer :=
  { l.push t with place := l.place.next, keyAllowed := keyAllowed }

/-- Opens a flow collection. -/
def openFlow? (t : Token) (l : Lexer) : Option Lexer := do
  let l ← l.markCandidate?
  return { l.take t true with candidate := none, around := l.candidate :: l.around }

/-- Closes a flow collection. -/
def closeFlow? (t : Token) (l : Lexer) : Option Lexer := do
  let l ← l.dropCandidate?
  return match l.around with
    | [] => l.take t false
    | candidate :: around =>
      { l.take t false with candidate := candidate, around := around }

/-- Takes the sign before an entry of a block sequence, or before a key. -/
def takeSign? (opening t : Token) (keyAllowed : Bool) (l : Lexer) : Option Lexer := do
  if !l.inFlow && !l.keyAllowed then none
  let l ← (l.openBlock l.place.column l.tokens.size opening).dropCandidate?
  return l.take t keyAllowed

/-- Takes the colon between a key and its value. -/
def takeColon? (l : Lexer) : Option Lexer :=
  match l.candidate with
  | some c =>
    let l := { l with tokens := l.tokens.insertIdxIfInBounds c.position .key }
    some ({ l.openBlock c.column c.position .blockMappingStart with candidate := none }.take
      .value false)
  | none =>
    if l.inFlow then some (l.take .value false)
    else if !l.keyAllowed then none
    else some ((l.openBlock l.place.column l.tokens.size .blockMappingStart).take .value true)

/-- Takes a scalar that has been read. -/
def takeScalar (style : Style) (keyAllowed : Bool) (s : Scanned) (l : Lexer) : Lexer :=
  { l.push (.scalar style s.text) with
    place := l.place.moveTo s.rest, keyAllowed := keyAllowed }

/-- Takes a reference, an anchor or a tag. -/
def takeProperty? (t : Token) (rest : List Char) (l : Lexer) : Option Lexer := do
  let l ← l.markCandidate?
  return { l.push t with place := l.place.moveTo rest, keyAllowed := false }

/-- Whether a plain scalar may start here; `flow` tells whether a flow collection is open. -/
def startsPlain (flow : Bool) : List Char → Bool
  | [] => false
  | c :: rest =>
    if c = '-' then !rest.head?.any isBlank
    else if c = '?' || c = ':' then !flow && !startsBlank rest
    else !isBlank c && !isBreak c && !",[]\x7b\x7d#&*!|>'\"%@\x60".toList.contains c

/-- Takes the next token; a text of which nothing is left has no more. -/
def step? (l : Lexer) : Option Lexer := do
  let flow := l.inFlow
  match l.place.rest with
  | [] => none
  | c :: rest =>
    let sign := startsBlank rest
    if l.place.column = 0 && c = '%' then
      let l ← l.endDocument?
      let (t, rest) ← directive? rest
      return { l.push t with place := l.place.moveTo rest }
    else if l.place.column = 0 && startsDocumentMark (c :: rest) then
      let l ← l.endDocument?
      return { l.push (if c = '-' then .documentStart else .documentEnd) with
        place := l.place.skip 3 }
    else if c = '[' then l.openFlow? .flowSequenceStart
    else if c = '\x7b' then l.openFlow? .flowMappingStart
    else if c = ']' then l.closeFlow? .flowSequenceEnd
    else if c = '\x7d' then l.closeFlow? .flowMappingEnd
    else if c = ',' then
      let l ← l.dropCandidate?
      return l.take .flowEntry true
    else if c = '-' && sign then l.takeSign? .blockSequenceStart .blockEntry true
    else if c = '?' && (flow || sign) then l.takeSign? .blockMappingStart .key (!flow)
    else if c = ':' && (flow || sign) then l.takeColon?
    else if c = '*' then
      let (name, rest) ← anchorName? rest
      l.takeProperty? (.reference name) rest
    else if c = '&' then
      let (name, rest) ← anchorName? rest
      l.takeProperty? (.anchor name) rest
    else if c = '!' then
      let (t, rest) ← tag? flow rest
      l.takeProperty? t rest
    else if (c = '|' || c = '>') && !flow then
      let l ← l.dropCandidate?
      let style := if c = '|' then .block else .quoted
      return l.takeScalar style true (← block? (c = '|') l.indent rest)
    else if c = '\'' || c = '"' then
      let l ← l.markCandidate?
      return l.takeScalar .quoted false (← quoted? (c = '\'') rest)
    else if startsPlain flow (c :: rest) then
      let l ← l.markCandidate?
      let s ← plain? flow (l.indent + 1).toNat (c :: rest)
      return l.takeScalar .plain s.broken s
    else none

/-- Takes all tokens. -/
def run? : Nat → Lexer → Option (List Token)
  | 0, _ => none
  | fuel + 1, l => do
    let l ← (l.toNextToken (l.place.rest.length + 1)).dropStale?
    let l := l.closeBlocks l.place.column
    if l.place.rest.isEmpty then return (← (l.closeBlocks (-1)).dropCandidate?).tokens.toList
    else run? fuel (← l.step?)

end Lexer

/-- A character that may stand in a text. -/
def isPrintable (c : Char) : Bool :=
  let n := c.toNat
  n = 0x9 || n = 0xa || n = 0xd || (0x20 ≤ n && n ≤ 0x7e) || n = 0x85
    || (0xa0 ≤ n && n ≤ 0xfffd) || 0x10000 ≤ n

/-- The tokens of a text. -/
def tokens? (text : List Char) : Option (List Token) :=
  if text.all isPrintable then
    Lexer.run? (text.length + 1) { place := ⟨text, 0, 0, 0⟩ }
  else none

end QueryGateway.Yaml
