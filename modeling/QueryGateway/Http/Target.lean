import QueryGateway.Text.Utf8

/-! The targets of requests.

A target is a path with its query, or the same behind a scheme and an authority, or an
authority alone, or a star. What stands behind a hash sign is dropped. -/
namespace QueryGateway.Http

/-- A target. The path is as it was sent, with its percent signs; an authority alone has an
empty one. -/
structure Target where
  path : String
  query : Option (List UInt8) := none
  deriving DecidableEq, Repr

namespace Target

/-! ### Path and query -/

/-- Whether a character may stand in a path. -/
def isPathChar (c : Char) : Bool := ' ' < c && "#<>?\x60".toList.all (· ≠ c)

/-- Whether a character may stand in a query. -/
def isQueryChar (c : Char) : Bool := ' ' < c && "\"#<>".toList.all (· ≠ c)

/-- The path and the query that characters hold; an empty path is the root. The query begins
behind the first question mark. -/
def ofPath? (cs : List Char) : Option Target :=
  let cs := cs.takeWhile (· ≠ '#')
  let path := cs.takeWhile (· ≠ '?')
  let query := (cs.drop path.length).tail
  if path.all isPathChar && query.all isQueryChar then
    some ⟨if path.isEmpty then "/" else String.ofList path,
      if path.length < cs.length then some (Text.Utf8.encodeChars query) else none⟩
  else none

/-! ### Authorities -/

/-- Whether a character ends an authority. -/
def endsAuthority (c : Char) : Bool := ['/', '?', '#'].contains c

/-- Whether a character may stand in an authority, brackets and marks of its parts included. -/
def isAuthorityChar (c : Char) : Bool :=
  c.isAlphanum || "-._~!$&'()*+,;=:@[]%".toList.contains c

/-- What of an authority was read: its colons and its percent signs since the name of a user
or a bracketed host ended, and the brackets. -/
structure AuthorityPart where
  colons : Nat := 0
  percent : Bool := false
  opened : Bool := false
  closed : Bool := false
  deriving DecidableEq, Repr

/-- Reads a character of an authority. -/
def AuthorityPart.step? (p : AuthorityPart) : Char → Option AuthorityPart
  | ':' => if p.colons < 8 then some { p with colons := p.colons + 1 } else none
  | '[' => if p.percent || p.opened then none else some { p with opened := true }
  | ']' =>
    if p.opened && !p.closed then some { p with colons := 0, percent := false, closed := true }
    else none
  | '@' => some { p with colons := 0, percent := false }
  | '%' => some { p with percent := true }
  | c => if isAuthorityChar c then some p else none

/-- Whether characters are an authority: a host with at most one colon behind it, without
percent signs unless in brackets, and in front of it perhaps a user. -/
def isAuthority (cs : List Char) : Bool :=
  match cs.foldlM AuthorityPart.step? {} with
  | some p => p.colons ≤ 1 && !p.percent && p.opened = p.closed && cs.getLast? ≠ some '@'
  | none => false

/-! ### Schemes -/

/-- Whether a character may stand in a scheme. -/
def isSchemeChar (c : Char) : Bool := c.isAlphanum || ['+', '-', '.', '~'].contains c

/-- A scheme and what stands behind its slashes, if characters begin with one. -/
def splitScheme? (cs : List Char) : Option (List Char × List Char) :=
  let scheme := cs.takeWhile isSchemeChar
  match cs.drop scheme.length with
  | ':' :: '/' :: '/' :: rest => some (scheme, rest)
  | _ => none

/-! ### Reading -/

/-- The target that a text spells, unless it is malformed or longer than 65534 bytes. -/
def read? (text : String) : Option Target :=
  if 65534 < text.utf8ByteSize then none
  else
    match text.toList with
    | [] => none
    | ['*'] => some { path := "*" }
    | '/' :: rest => ofPath? ('/' :: rest)
    | cs =>
      match splitScheme? cs with
      | none => if isAuthority cs then some { path := "" } else none
      | some (scheme, rest) =>
        let authority := rest.takeWhile fun c => !endsAuthority c
        if scheme.length ≤ 64 && !authority.isEmpty && isAuthority authority then
          ofPath? (rest.drop authority.length)
        else none

end Target

end QueryGateway.Http
