import TrafficShaping.Text.Blank
import TrafficShaping.Text.Quoted

/-!
# Node ids

The node of a container in a report is named by the container's id followed by a fixed suffix. The suffix
is the join between reports and control requests: a request names a node, and the container is what stands
before the last copy of the suffix.
-/

namespace TrafficShaping

namespace NodeId

def suffix : String := ";<container>"

/-- The node id of a container. -/
def ofContainer (id : String) : String := id ++ suffix

/-- The id of the container that a node id names, if it names one. -/
def container? (nodeId : String) : Option String := Text.stripEnd? suffix nodeId

/-- A text that is no node id. -/
structure Malformed where
  nodeId : String
deriving DecidableEq

/-- The id of the container that a node id names. A text that is no node id is handed back. -/
def container (nodeId : String) : Except Malformed String :=
  match container? nodeId with
  | some id => .ok id
  | none => .error ⟨nodeId⟩

/-- Why a text is no node id. -/
def malformedMessage (nodeId : String) : String :=
  "no suffix " ++ Text.quoted suffix ++ " in node ID " ++ Text.quoted nodeId

end NodeId

end TrafficShaping
