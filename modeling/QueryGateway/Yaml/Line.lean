/-! Lines, blanks and the gaps between the words of a scalar.

A line ends at a line feed, a carriage return or both, at a next line, or at a line or
paragraph separator. The last two stand for themselves, the others for a line feed. -/
namespace QueryGateway.Yaml

/-- A character that ends a line. -/
def isBreak (c : Char) : Bool :=
  c = '\n' || c = '\r' || c = '\u0085' || c = '\u2028' || c = '\u2029'

/-- A space or a tab. -/
def isBlank (c : Char) : Bool := c = ' ' || c = '\t'

/-- Whether a text starts with a blank or a line end, or is over. -/
def startsBlank : List Char → Bool
  | [] => true
  | c :: _ => isBlank c || isBreak c

/-- The character that a line end stands for, and what follows it. -/
def lineEnd? : List Char → Option (Char × List Char)
  | '\r' :: '\n' :: rest => some ('\n', rest)
  | c :: rest =>
    if c = '\u2028' || c = '\u2029' then some (c, rest)
    else if isBreak c then some ('\n', rest)
    else none
  | [] => none

/-- Whether a line starts with a mark between documents. -/
def startsDocumentMark : List Char → Bool
  | '-' :: '-' :: '-' :: rest => startsBlank rest
  | '.' :: '.' :: '.' :: rest => startsBlank rest
  | _ => false

/-! ### Gaps -/

/-- What stands between two words: blanks, and then for each line end what it stands for
and the blanks behind it. -/
structure Gap where
  blanks : List Char := []
  lines : List (Char × List Char) := []

namespace Gap

/-- The gap at the start of a text. -/
def split : List Char → Gap × List Char
  | [] => ({}, [])
  | '\r' :: '\n' :: rest =>
    let (g, rest) := split rest
    ({ lines := ('\n', g.blanks) :: g.lines }, rest)
  | c :: rest =>
    if isBlank c then
      let (g, rest) := split rest
      ({ g with blanks := c :: g.blanks }, rest)
    else if isBreak c then
      let (g, rest) := split rest
      let stands := if c = '\u2028' || c = '\u2029' then c else '\n'
      ({ lines := (stands, g.blanks) :: g.lines }, rest)
    else ({}, c :: rest)

def isEmpty (g : Gap) : Bool := g.blanks.isEmpty && g.lines.isEmpty

/-- Whether a line ends in the gap. -/
def isBroken (g : Gap) : Bool := !g.lines.isEmpty

/-- The column behind the gap, if a line ends in it. -/
def column? (g : Gap) : Option Nat := g.lines.getLast?.map fun l => l.2.length

/-- The text of a gap in a folded scalar. A single line end stands for a space; of several
the first is dropped. -/
def folded (g : Gap) : List Char :=
  match g.lines with
  | [] => g.blanks
  | [('\n', _)] => [' ']
  | ('\n', _) :: more => more.map (·.1)
  | lines => lines.map (·.1)

/-- Whether a tab stands where a line has to be indented by spaces. -/
def abusesTab (indent : Nat) (g : Gap) : Bool :=
  g.lines.any fun l => (l.2.take indent).contains '\t'

/-- Whether a mark between documents follows the gap. -/
def precedesMark (g : Gap) (rest : List Char) : Bool :=
  g.column? = some 0 && startsDocumentMark rest

end Gap

end QueryGateway.Yaml
