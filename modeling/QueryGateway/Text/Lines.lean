/-! The lines of a text.

A line ends at a line feed, and a carriage return right before it belongs to the end. What
follows the last line feed is a line unless it is empty. -/
namespace QueryGateway.Text

/-- Characters without a carriage return at their end. -/
def dropReturn (cs : List Char) : List Char :=
  if cs.getLast? = some '\r' then cs.dropLast else cs

/-- The lines of characters, of which `current` were read since the last end of a line, the
last one first. -/
def linesFrom (current : List Char) : List Char → List (List Char)
  | [] => if current.isEmpty then [] else [current.reverse]
  | '\n' :: rest => dropReturn current.reverse :: linesFrom [] rest
  | c :: rest => linesFrom (c :: current) rest

/-- The lines of a text. -/
def lines (s : String) : List String := (linesFrom [] s.toList).map String.ofList

end QueryGateway.Text
