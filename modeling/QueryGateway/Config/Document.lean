import QueryGateway.Json.Printer

/-! Configuration documents, before they are given a meaning.

A document is a tree of scalars, lists and mappings. A scalar keeps its text, and what the
text means depends on where it stands: a plain `5` is the number five where a number is
wanted and the text `5` where a text is wanted. A quoted scalar is never anything but text,
a literal never text. A tag says what a scalar is meant to be; it decides whether the scalar
is nothing, and may name an alternative. -/
namespace QueryGateway.Config

/-- How a scalar is written: without quotes, between quotes, line by line, or in a notation
that tells literals from text. -/
inductive ScalarStyle where
  | plain
  | quoted
  | block
  | literal
  deriving DecidableEq, Repr

/-- A document. The entries of a mapping keep their order, and equal keys. In some notations
a list may stand for a section, of which it gives the fields in their order. -/
inductive Document where
  | scalar (style : ScalarStyle) (tag : Option String) (text : String)
  | sequence (positional : Bool) (items : List Document)
  | mapping (entries : List (Document × Document))

namespace Document

/-- A document without anything in it. -/
def nothing : Document := .scalar .plain none ""

/-- A document that no reader takes, such as one that holds itself. -/
def unreadable : Document := .scalar .literal none ""

mutual

/-- The document of a JSON value. -/
def ofJson : Json → Document
  | .null => .scalar .literal none "null"
  | .bool true => .scalar .literal none "true"
  | .bool false => .scalar .literal none "false"
  | .number n => .scalar .literal none (String.ofList n.render)
  | .string s => .scalar .quoted none s
  | .array items => .sequence true (itemsOfJson items)
  | .object ms => .mapping (entriesOfJson ms)

/-- The documents of JSON values. -/
def itemsOfJson : List Json → List Document
  | [] => []
  | v :: rest => ofJson v :: itemsOfJson rest

/-- The entries of the members of an object. -/
def entriesOfJson : List (String × Json) → List (Document × Document)
  | [] => []
  | (k, v) :: rest => (.scalar .quoted none k, ofJson v) :: entriesOfJson rest

end

/-! ### What a scalar means -/

/-- The tag of a kind of scalar that every document knows. -/
def coreTag (kind : String) : String := "tag:yaml.org,2002:" ++ kind

/-- The words for nothing. -/
def nullWords : List String := ["null", "Null", "NULL", "~"]

/-- Whether a document stands for nothing where something may be missing. A tag says that a
plain scalar does, or that it does not; what is tagged as nothing has to be a word for it. -/
def isNull? : Document → Option Bool
  | .scalar .plain none text => some (text.isEmpty || nullWords.contains text)
  | .scalar .plain (some tag) text =>
    if tag = coreTag "null" then if nullWords.contains text then some true else none
    else some false
  | .scalar .literal _ text => some (text = "null")
  | _ => some false

/-- A text. -/
def asText? : Document → Option String
  | .scalar .literal _ _ => none
  | .scalar _ _ text => some text
  | _ => none

/-- The name of one of several alternatives: a text, or a tag on nothing, or a mapping with
that text as its only key and a literal null behind it. -/
def asChoice? : Document → Option String
  | .mapping [(name, .scalar .literal _ "null")] => name.asText?
  | .scalar style (some tag) text =>
    if style = .plain && (text.isEmpty || nullWords.contains text) then
      some (String.ofList (match tag.toList with
        | '!' :: name => name
        | name => name))
    else none
  | d => d.asText?

/-- The text of a scalar of a kind that is no text: plain, or written line by line with the
tag of its kind. -/
def asValue? (kind : String) : Document → Option String
  | .scalar .plain _ text | .scalar .literal _ text => some text
  | .scalar .block tag text => if tag = some (coreTag kind) then some text else none
  | _ => none

/-- A truth value. -/
def asBool? (d : Document) : Option Bool := do
  let text ← d.asValue? "bool"
  if ["true", "True", "TRUE"].contains text then some true
  else if ["false", "False", "FALSE"].contains text then some false
  else none

/-- The value of a digit in some base. -/
def digitIn? (base : Nat) (c : Char) : Option Nat :=
  let v :=
    if c.isDigit then c.toNat - '0'.toNat
    else if 'a' ≤ c && c ≤ 'z' then c.toNat - 'a'.toNat + 10
    else if 'A' ≤ c && c ≤ 'Z' then c.toNat - 'A'.toNat + 10
    else 36
  if v < base then some v else none

/-- The natural that digits spell in some base. -/
def naturalIn? (base : Nat) (cs : List Char) : Option Nat :=
  if cs = [] then none
  else cs.foldl (fun n c => do return (← n) * base + (← digitIn? base c)) (some 0)

/-- A natural, with a sign or without: in decimal digits, of which the first is no zero if
there are more, or in hexadecimal, octal or binary digits behind `0x`, `0o` or `0b`. -/
def naturalOf? (cs : List Char) : Option Nat :=
  let body := match cs with
    | '+' :: rest => rest
    | cs => cs
  match body with
  | '0' :: 'x' :: rest => naturalIn? 16 rest
  | '0' :: 'o' :: rest => naturalIn? 8 rest
  | '0' :: 'b' :: rest => naturalIn? 2 rest
  | '0' :: _ :: _ => none
  | _ => naturalIn? 10 body

/-- A natural below a bound. -/
def asNatBelow? (bound : Nat) (d : Document) : Option Nat := do
  (naturalOf? (← d.asValue? "int").toList).filter (· < bound)

/-- A list, whose items are read one by one; nothing is an empty list. -/
def asList? {α : Type} (read : Document → Option α) : Document → Option (List α)
  | .sequence _ items => items.mapM read
  | .scalar .plain _ text => if text.isEmpty then some [] else none
  | _ => none

/-- The entries of a mapping whose keys are texts; nothing is an empty mapping. -/
def asEntries? : Document → Option (List (String × Document))
  | .mapping entries => entries.mapM fun (k, v) => k.asText?.map (·, v)
  | .scalar .plain _ text => if text.isEmpty then some [] else none
  | _ => none

/-- The entries of a table, whose values are read one by one. The last of equal keys wins,
in the place of the first. -/
def asTable? {α : Type} (read : Document → Option α) (d : Document) :
    Option (List (String × α)) := do
  let read ← (← d.asEntries?).mapM fun (k, v) => return (k, ← read v)
  return read.foldl (fun table (k, v) => set k v table) []
where
  /-- A table with a key set to a value. -/
  set (key : String) (value : α) : List (String × α) → List (String × α)
    | [] => [(key, value)]
    | (k, v) :: rest => if k = key then (key, value) :: rest else (k, v) :: set key value rest

/-! ### Sections -/

/-- The fields of a section by their names. -/
abbrev Fields := String → Option Document

/-- The fields of a section that has fields of these names: none of them may be written
twice, all others are passed over. A list gives them in this order and may stop early. -/
def asSection? (names : List String) : Document → Option Fields
  | .sequence true items =>
    if items.length ≤ names.length then some ((names.zip items).lookup ·) else none
  | d => do
    let entries ← d.asEntries?
    if names.all fun name => (entries.filter (·.1 = name)).length ≤ 1 then
      some (entries.lookup ·)
    else none

/-- A field that has a value of its own when it is missing. -/
def Fields.defaulted {α : Type} (fs : Fields) (name : String) (read : Document → Option α)
    (default : α) : Option α :=
  match fs name with
  | none => some default
  | some d => read d

/-- A field that may be missing or null. -/
def Fields.optional {α : Type} (fs : Fields) (name : String) (read : Document → Option α) :
    Option (Option α) :=
  match fs name with
  | none => some none
  | some d => do if ← d.isNull? then return none else return some (← read d)

end Document

end QueryGateway.Config
