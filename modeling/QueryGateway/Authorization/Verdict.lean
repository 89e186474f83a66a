import QueryGateway.Json.Fields

/-! The answer to the question whether a caller may touch a relation.

A verdict may carry details, which the caller gets to see. They are written behind the
verdict's own fields, so a detail of the same name wins. -/
namespace QueryGateway

/-- An answer. -/
structure Verdict where
  success : Bool
  message : Option String := none
  code : UInt16
  details : Json.Members := []

namespace Verdict

/-- The relation may be touched. -/
def granted : Verdict := { success := true, code := 200 }

/-- The relation may not be touched. -/
def denied (code : UInt16) (message : String) : Verdict :=
  { success := false, message := some message, code := code }

/-- A verdict with a detail set. -/
def withDetail (v : Verdict) (key : String) (value : Json) : Verdict :=
  { v with details := v.details.insert key value }

/-- What the caller sees of a verdict: all but the code. -/
def summary (v : Verdict) : Json.Members :=
  (Json.Members.ofList
    (("success", .bool v.success)
      :: (v.message.map fun m => ("message", Json.string m)).toList)).extend v.details

def toJson (v : Verdict) : Json :=
  .object <| (Json.Members.ofList
    ([("success", .bool v.success), ("code", .ofNat v.code.toNat)]
      ++ (v.message.map fun m => ("message", Json.string m)).toList)).extend v.details

/-- Reads a verdict. Its fields apart, everything is a detail. -/
def ofJson? (v : Json) : Option Verdict := do
  let ms ← v.asObject?
  let fs : Json.Fields := Json.Members.get? ms
  return {
    success := ← fs.required "success" Json.asBool?
    message := ← fs.optional "message" Json.asString?
    code := ← fs.required "code" Json.asUInt16?
    details := Json.Members.without ["success", "message", "code"] ms }

/-- The verdict of whoever allows everything. -/
def allowAll : Verdict := granted.withDetail "auth_level" (.string "allow_all")

end Verdict

end QueryGateway
