import QueryGateway.Text.Hex
import QueryGateway.Yaml.Line

/-! The text of scalars.

Each reader gets the text behind the indicator of the scalar, and gives the scalar's text
and what follows it. A scalar over several lines is folded, unless it is a literal block. -/
namespace QueryGateway.Yaml

/-- A scalar that has been read: its text, what follows it, and whether a line ended behind
its last word. -/
structure Scanned where
  text : List Char
  rest : List Char
  broken : Bool := false

/-! ### Plain scalars -/

/-- The punctuation of a flow collection. -/
def isFlowPunctuation (c : Char) : Bool := [',', '[', ']', '\x7b', '\x7d'].contains c

/-- A word of a plain scalar, which a colon before a blank ends, and in a flow collection its
punctuation. There a colon may not stand before punctuation. -/
def plainWord? (flow : Bool) : List Char → Option (List Char × List Char)
  | [] => some ([], [])
  | c :: rest =>
    if isBlank c || isBreak c || (flow && isFlowPunctuation c) then some ([], c :: rest)
    else if flow && c = ':' && rest.head?.any fun d => d = '?' || isFlowPunctuation d then none
    else if c = ':' && startsBlank rest then some ([], c :: rest)
    else (plainWord? flow rest).map fun (word, rest) => (c :: word, rest)

/-- The words of a plain scalar whose further lines are indented by at least `indent`. -/
def plainFrom? (flow : Bool) (indent : Nat) : Nat → List Char → Option Scanned
  | 0, _ => none
  | fuel + 1, cs => do
    let (word, rest) ← plainWord? flow cs
    let (gap, behind) := Gap.split rest
    if gap.abusesTab indent then none
    if gap.isEmpty then return ⟨word, rest, false⟩
    if gap.precedesMark behind || behind.head? = some '#'
        || (!flow && gap.column?.any (· < indent)) then
      return ⟨word, behind, gap.isBroken⟩
    let next ← plainFrom? flow indent fuel behind
    if next.text.isEmpty then return ⟨word, next.rest, gap.isBroken⟩
    return { next with text := word ++ gap.folded ++ next.text }

/-- A plain scalar. -/
def plain? (flow : Bool) (indent : Nat) (cs : List Char) : Option Scanned :=
  plainFrom? flow indent (cs.length + 1) cs

/-! ### Quoted scalars -/

/-- The characters behind `\` that stand for another one. -/
def escapes : List (Char × Nat) :=
  [('0', 0), ('a', 7), ('b', 8), ('t', 9), ('\t', 9), ('n', 10), ('v', 11), ('f', 12), ('r', 13),
   ('e', 27), (' ', 32), ('"', 34), ('/', 47), ('\\', 92), ('N', 0x85), ('_', 0xa0), ('L', 0x2028),
   ('P', 0x2029)]

/-- The number of hexadecimal digits behind `\x`, `\u` and `\U`. -/
def escapeLengths : List (Char × Nat) := [('x', 2), ('u', 4), ('U', 8)]

/-- The character of a number, unless it is a surrogate or too large. -/
def charOf? (n : Nat) : Option Char :=
  if n < 0xd800 || (0xdfff < n && n ≤ 0x10ffff) then some (Char.ofNat n) else none

/-- The number that hexadecimal digits spell. -/
def hexadecimal? (cs : List Char) : Option Nat :=
  cs.foldl (fun n c => do return (← n) * 16 + (← Text.Hex.digit? c)) (some 0)

/-- The character that an escape stands for, from the text behind `\`. -/
def escape? : List Char → Option (Char × List Char)
  | [] => none
  | c :: rest =>
    match escapes.lookup c, escapeLengths.lookup c with
    | some n, _ => some (Char.ofNat n, rest)
    | none, some length =>
      if rest.length < length then none
      else do return (← charOf? (← hexadecimal? (rest.take length)), rest.drop length)
    | none, none => none

/-- What follows the opening quote of a scalar, by whether the quotes are single ones. -/
def quotedFrom? (single : Bool) : Nat → List Char → Option Scanned
  | 0, _ | _, [] => none
  | fuel + 1, c :: rest =>
    let go (text rest : List Char) : Option Scanned :=
      (quotedFrom? single fuel rest).map fun s => { s with text := text ++ s.text }
    if isBlank c || isBreak c then
      let (gap, behind) := Gap.split (c :: rest)
      if gap.precedesMark behind then none else go gap.folded behind
    else if single then
      if c ≠ '\'' then go [c] rest
      else if rest.head? = some '\'' then go [c] rest.tail
      else some ⟨[], rest, false⟩
    else if c = '"' then some ⟨[], rest, false⟩
    else if c ≠ '\\' then go [c] rest
    else if (lineEnd? rest).isSome then
      let (gap, behind) := Gap.split rest
      if gap.precedesMark behind then none else go (gap.lines.tail.map (·.1)) behind
    else do
      let (d, rest) ← escape? rest
      go [d] rest

/-- A scalar between quotes. -/
def quoted? (single : Bool) (cs : List Char) : Option Scanned :=
  quotedFrom? single (cs.length + 1) cs

/-! ### Block scalars -/

/-- What becomes of the line ends behind the last line of a block: one is kept, none, or
all. -/
inductive Chomping where
  | clip
  | strip
  | keep

/-- What stands behind the indicator of a block: how its end is chomped, and by how much it is
indented, if that is said. -/
structure BlockHeader where
  chomping : Chomping := .clip
  increment : Option Nat := none

/-- The sign that says how a block is chomped. -/
def chomping? : List Char → Option Chomping × List Char
  | '+' :: rest => (some .keep, rest)
  | '-' :: rest => (some .strip, rest)
  | cs => (none, cs)

/-- The digit that says by how much a block is indented; it is not zero. -/
def increment? : List Char → Option (Option Nat × List Char)
  | c :: rest =>
    if c = '0' then none
    else if c.isDigit then some (some (c.toNat - '0'.toNat), rest)
    else some (none, c :: rest)
  | [] => some (none, [])

/-- Reads a block's header, and the rest of its line. -/
def blockHeader? (cs : List Char) : Option (BlockHeader × List Char) := do
  let (before, cs) := chomping? cs
  let (increment, cs) ← increment? cs
  let (after, cs) := if before.isNone && increment.isSome then chomping? cs else (none, cs)
  let cs := cs.dropWhile isBlank
  let cs := if cs.head? = some '#' then cs.dropWhile (!isBreak ·) else cs
  let header : BlockHeader := ⟨(before.or after).getD .clip, increment⟩
  match cs, lineEnd? cs with
  | [], _ => return (header, [])
  | _, some (_, cs) => return (header, cs)
  | _, none => none

/-- The empty lines before a line of a block: their line ends, the largest indentation among
them and the line, the column of the line, and its text. -/
structure Approach where
  breaks : List Char
  deepest : Nat
  column : Nat
  rest : List Char

/-- Passes over empty lines and the indentation of the next line, up to `limit` columns of it.
No tab may stand in the indentation. -/
def approach? (limit : Option Nat) : Nat → List Char → Option Approach
  | 0, _ => none
  | fuel + 1, cs =>
    let spaces := (cs.takeWhile (· = ' ')).length
    let column := limit.elim spaces (min spaces)
    let rest := cs.drop column
    if rest.head? = some '\t' && limit.all (column < ·) then none
    else
      match lineEnd? rest with
      | none => some ⟨[], column, column, rest⟩
      | some (c, rest) => (approach? limit fuel rest).map fun a =>
        { a with breaks := c :: a.breaks, deepest := max column a.deepest }

/-- What of a block has been read before a line: the line end before it, if there is one, and
whether the line before that starts with a blank. -/
structure BlockPlace where
  lastBreak : List Char := []
  afterBlank : Bool := false

/-- The line ends before a line of a block. In a folded block, one between two lines that
start with no blank stands for a space, and is dropped if empty lines follow it. -/
def BlockPlace.joint (p : BlockPlace) (literal : Bool) (a : Approach) : List Char :=
  let blank := a.rest.head?.any isBlank
  if !literal && p.lastBreak.head? = some '\n' && !p.afterBlank && !blank then
    if a.breaks.isEmpty then [' '] else a.breaks
  else p.lastBreak ++ a.breaks

/-- The lines of a block that is indented by `indent`. -/
def blockLines? (literal : Bool) (chomping : Chomping) (indent : Nat) :
    Nat → BlockPlace → Approach → Option Scanned
  | 0, _, _ => none
  | fuel + 1, p, a =>
    if a.column ≠ indent || a.rest.isEmpty then
      let text := match chomping with
        | .strip => []
        | .clip => p.lastBreak
        | .keep => p.lastBreak ++ a.breaks
      some ⟨text, a.rest, true⟩
    else do
      let line := a.rest.takeWhile (!isBreak ·)
      let rest := a.rest.drop line.length
      let (lastBreak, rest) := match lineEnd? rest with
        | some (c, rest) => ([c], rest)
        | none => ([], rest)
      let next ← approach? (some indent) (rest.length + 1) rest
      let s ← blockLines? literal chomping indent fuel
        ⟨lastBreak, a.rest.head?.any isBlank⟩ next
      return { s with text := p.joint literal a ++ line ++ s.text }

/-- A block scalar in a collection that is indented by `parent`, which is negative outside of
all collections. -/
def block? (literal : Bool) (parent : Int) (cs : List Char) : Option Scanned := do
  let (header, cs) ← blockHeader? cs
  let limit := header.increment.map fun n => parent.toNat + n
  let first ← approach? limit (cs.length + 1) cs
  let indent := limit.getD (max first.deepest (max (parent + 1) 1).toNat)
  blockLines? literal header.chomping indent (cs.length + 1) {} first

end QueryGateway.Yaml
