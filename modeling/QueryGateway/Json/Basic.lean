import QueryGateway.Number.Binary64

/-! JSON values.

A number is whole if it is written without a fraction or an exponent and fits 64 bits,
signed or not; otherwise it is the binary number nearest to what is written. The members
of an object are kept in the order of their keys, each key once. -/
namespace QueryGateway

/-- A JSON number. -/
inductive Json.Number where
  | whole (n : Int)
  | real (x : Binary64)
  deriving DecidableEq, Repr

/-- A JSON value. -/
inductive Json where
  | null
  | bool (b : Bool)
  | number (n : Json.Number)
  | string (s : String)
  | array (items : List Json)
  | object (members : List (String × Json))

namespace Json

instance : Inhabited Json := ⟨.null⟩

/-- The members of an object, by key. -/
abbrev Members := List (String × Json)

namespace Members

/-- The value of a key. -/
def get? (ms : Members) (key : String) : Option Json := ms.lookup key

/-- The members with a key set to a value. -/
def insert (key : String) (value : Json) : Members → Members
  | [] => [(key, value)]
  | (k, v) :: rest =>
    if key = k then (key, value) :: rest
    else if key < k then (key, value) :: (k, v) :: rest
    else (k, v) :: insert key value rest

/-- The members without a key. -/
def erase (key : String) (ms : Members) : Members := ms.filter (·.1 ≠ key)

/-- The members with others set behind them, one after the other. -/
def extend (ms : Members) (others : List (String × Json)) : Members :=
  others.foldl (fun ms (k, v) => ms.insert k v) ms

/-- The members of a list in which the last of equal keys wins. -/
def ofList (others : List (String × Json)) : Members := extend [] others

/-- The members without some keys. -/
def without (keys : List String) (ms : Members) : Members := ms.filter fun m => !keys.contains m.1

end Members

/-- The whole number `n`. -/
def ofNat (n : Nat) : Json := .number (.whole n)

/-- The object with the given members. -/
def ofMembers (ms : List (String × Json)) : Json := .object (Members.ofList ms)

/-- A value that may be missing, as `null` then. -/
def ofOption {α : Type} (f : α → Json) : Option α → Json
  | none => .null
  | some a => f a

/-- The value of a member; no other value than an object has members. -/
def get? : Json → String → Option Json
  | .object ms, key => Members.get? ms key
  | _, _ => none

def asString? : Json → Option String
  | .string s => some s
  | _ => none

def asBool? : Json → Option Bool
  | .bool b => some b
  | _ => none

def asArray? : Json → Option (List Json)
  | .array items => some items
  | _ => none

def asObject? : Json → Option Members
  | .object ms => some ms
  | _ => none

/-- A natural below a bound. -/
def asNatBelow? (bound : Nat) : Json → Option Nat
  | .number (.whole n) => if 0 ≤ n && n < bound then some n.toNat else none
  | _ => none

end Json

end QueryGateway
