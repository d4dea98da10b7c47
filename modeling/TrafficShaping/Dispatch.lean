import TrafficShaping.Control
import TrafficShaping.NodeId
import TrafficShaping.Store

/-!
# Dispatching controls

A request names a node and a control. It is first resolved to a running container and the control, which
asks the store and nothing else, and then performed on the container's process. Of several faults the first
in the order of `DispatchError` is reported.
-/

namespace TrafficShaping

inductive DispatchError where
  | malformedNodeId (nodeId : String)
  | containerNotFound (id : String)
  | unknownControl (control nodeId : String)
  | containerNotRunning (id : String)
  | failed (e : ShapingError)
deriving DecidableEq

def DispatchError.message : DispatchError → String
  | .malformedNodeId nodeId => NodeId.malformedMessage nodeId
  | .containerNotFound id => "container " ++ id ++ " not found"
  | .unknownControl control nodeId =>
    "unknown control ID " ++ Text.quoted control ++ " for node ID " ++ Text.quoted nodeId
  | .containerNotRunning id => "container " ++ id ++ " is not running"
  | .failed e => e.message

/-- A request that can be performed. -/
structure Resolved where
  container : String
  pid : Pid
  control : Control
deriving DecidableEq

/-- Finds the container and the control that a request names. -/
def Store.resolve (s : Store) (nodeId controlId : String) : Except DispatchError Resolved :=
  match NodeId.container nodeId with
  | .error e => .error (.malformedNodeId e.nodeId)
  | .ok id =>
    match s.lookup id with
    | none => .error (.containerNotFound id)
    | some container =>
      match Control.ofId? controlId with
      | none => .error (.unknownControl controlId nodeId)
      | some control =>
        if container.state.isRunning && container.pid ≠ 0 then .ok ⟨id, container.pid, control⟩
        else .error (.containerNotRunning id)

/-- Resolves a request and performs it. -/
def Shaper.dispatch {σ : Type} (s : Shaper σ) (store : Store) (nodeId controlId : String) (c : Cache)
    (w : σ) : Except DispatchError Control × Cache × σ :=
  match store.resolve nodeId controlId with
  | .error e => (.error e, c, w)
  | .ok r =>
    match r.control.perform s r.pid c w with
    | (.ok (), c, w) => (.ok r.control, c, w)
    | (.error e, c, w) => (.error (.failed e), c, w)

end TrafficShaping
