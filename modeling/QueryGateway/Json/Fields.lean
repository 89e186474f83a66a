import QueryGateway.Json.Basic
import QueryGateway.Time.Instant

/-! Reading the fields of a record from JSON.

A record is written as an object, or as an array of its fields in their order; an array may
stop early. Fields that the record does not have are passed over in an object. Each
reading of a field tells a missing field from one of the wrong type. -/
namespace QueryGateway.Json

/-- The fields of a record by their names. -/
abbrev Fields := String → Option Json

/-- The fields that a value gives to a record with fields of these names. -/
def fields? (names : List String) : Json → Option Fields
  | .object ms => some (Members.get? ms)
  | .array items =>
    if items.length ≤ names.length then some ((names.zip items).lookup ·) else none
  | _ => none

/-- A field that must be there. -/
def Fields.required {α : Type} (fs : Fields) (name : String) (read : Json → Option α) :
    Option α :=
  (fs name).bind read

/-- A field that has a value of its own when it is missing. -/
def Fields.defaulted {α : Type} (fs : Fields) (name : String) (read : Json → Option α)
    (default : α) : Option α :=
  match fs name with
  | none => some default
  | some v => read v

/-- A field that may be missing or null. -/
def Fields.optional {α : Type} (fs : Fields) (name : String) (read : Json → Option α) :
    Option (Option α) :=
  match fs name with
  | none | some .null => some none
  | some v => (read v).map some

/-- The name of one of several alternatives: a string, or an object with that name as its
only key and nothing behind it. -/
def asChoice? : Json → Option String
  | .string s => some s
  | .object [(s, .null)] => some s
  | _ => none

/-- A natural that fits 16 bits. -/
def asUInt16? (v : Json) : Option UInt16 := (v.asNatBelow? (Nat.pow 2 16)).map Nat.toUInt16

/-- A natural that fits 64 bits. -/
def asNat64? (v : Json) : Option Nat := v.asNatBelow? (Nat.pow 2 64)

/-- A span in seconds and nanoseconds; more than a second of these counts as seconds. -/
def asSpan? (v : Json) : Option Span := do
  let fs ← fields? ["secs", "nanos"] v
  if let .object ms := v then
    if ms.any fun m => m.1 ≠ "secs" && m.1 ≠ "nanos" then none
  let seconds ← fs.required "secs" asNat64?
  let nanos ← fs.required "nanos" (asNatBelow? (Nat.pow 2 32))
  Span.ofParts? seconds nanos

/-- A span in seconds and nanoseconds. -/
def ofSpan (s : Span) : Json :=
  .ofMembers [("secs", .ofNat s.seconds), ("nanos", .ofNat s.subsecond)]

end QueryGateway.Json
