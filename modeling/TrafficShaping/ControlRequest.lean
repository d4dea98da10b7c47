import TrafficShaping.Json.Fields
import TrafficShaping.Json.Parser

/-!
# Control requests

The host asks for a control by the id of a node and the id of the control. The answer says nothing when the
control was performed, and otherwise carries the error as text.
-/

namespace TrafficShaping

structure ControlRequest where
  appId : String := ""
  nodeId : String
  control : String
deriving DecidableEq

namespace ControlRequest

def toJson (r : ControlRequest) : Json :=
  .ofFields [("AppID", .text r.appId), ("NodeID", .text r.nodeId), ("Control", .text r.control)]

def ofJson? (j : Json) : Option ControlRequest := do
  let [appId, nodeId, control] ← j.fields? ["AppID", "NodeID", "Control"] | none
  return {
    appId := ← Json.withDefault "" Json.string? appId
    nodeId := ← Json.required Json.string? nodeId
    control := ← Json.required Json.string? control }

/-- Reads a request from the body it came in. -/
def read? (body : List UInt8) : Option ControlRequest := (Json.parse? body).bind ofJson?

end ControlRequest

structure ControlResponse where
  error : Option String := none
deriving DecidableEq

namespace ControlResponse

def toJson (r : ControlResponse) : Json :=
  .ofFields (r.error.elim [] fun e => [("error", .text e)])

def ofJson? (j : Json) : Option ControlResponse := do
  let [error] ← j.fields? ["error"] | none
  return ⟨← Json.withDefault none (Json.nullable Json.string?) error⟩

end ControlResponse

end TrafficShaping
