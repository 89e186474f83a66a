import QueryGateway.Sql.Keyword

/-! The lexemes of a statement's text.

A word remembers which keyword it spells, if any, so that a grammar tests keywords
without looking at letters again; a word between double quotes spells none. A lexeme is a
token with the one thing that a grammar may ask about the text before it: whether it
stands apart from the token before. -/
namespace QueryGateway.Sql

/-- An identifier or keyword. -/
structure Word where
  text : String
  quoted : Bool
  keyword : Option Keyword
  deriving DecidableEq

/-- The three kinds of bracket. -/
inductive Bracket where
  | round | square | curly
  deriving DecidableEq, Repr

/-- Punctuation and operators. The operators that the grammar treats each in its own
way have a constructor; all others are known by their text. -/
inductive Symbol where
  | comma | semicolon | dot | colon | doubleColon | assign | fatArrow
  | equal | star | plus | minus | tilde | bang
  | operator (text : String)
  deriving DecidableEq, Repr

/-- How a string constant is written: in single quotes, alone or behind the letter that
says how its text is meant, or between dollar signs. -/
inductive Writing where
  | plain | escaped | unicode | national | hexadecimal | bits | dollar
  deriving DecidableEq, Repr

/-- One token. A number may end in the letter that makes it `long`; a placeholder is kept
without its dollar sign. A `stray` is a character that belongs to no token. -/
inductive Token where
  | word (w : Word)
  | number (text : String) (long : Bool)
  | string (how : Writing) (text : String)
  | placeholder (text : String)
  | symbol (s : Symbol)
  | opening (b : Bracket)
  | closing (b : Bracket)
  | stray (c : Char)
  deriving DecidableEq

/-- A token, and whether a blank or a comment stands right before it. -/
structure Lexeme where
  token : Token
  apart : Bool
  deriving DecidableEq

/-- The keyword that a token spells. -/
def Token.keyword : Token → Option Keyword
  | .word w => w.keyword
  | _ => none

/-! ### Case -/

/-- Letters outside ASCII whose upper case is made of ASCII letters. -/
private def asciiUpperForms : List (Char × List Char) :=
  [('ß', ['S', 'S']), ('ı', ['I']), ('ſ', ['S']), ('ﬀ', ['F', 'F']), ('ﬁ', ['F', 'I']),
   ('ﬂ', ['F', 'L']), ('ﬃ', ['F', 'F', 'I']), ('ﬄ', ['F', 'F', 'L']), ('ﬅ', ['S', 'T']),
   ('ﬆ', ['S', 'T'])]

/-- Upper case as far as a keyword can tell: the ASCII letters and what folds into them. -/
def keywordCase (cs : List Char) : List Char :=
  cs.flatMap fun c => (asciiUpperForms.lookup c).getD [c.toUpper]

/-- The word that unquoted text spells. -/
def Word.bare (cs : List Char) : Word :=
  ⟨String.ofList cs, false, Keyword.ofSpelling? (String.ofList (keywordCase cs))⟩

/-- A word between double quotes. -/
def Word.delimited (cs : List Char) : Word := ⟨String.ofList cs, true, none⟩

end QueryGateway.Sql
