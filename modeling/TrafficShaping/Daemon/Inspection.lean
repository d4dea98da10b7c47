import TrafficShaping.Container
import TrafficShaping.Json.Fields

/-!
# Inspecting a container

The daemon's answer about a container, as far as it matters here: the id, the name, the status and the
process. A record is made of it if it carries an id. The record is running only if the status says so and
the process has a number that a process can have; a process number is kept only while running.
-/

namespace TrafficShaping.Daemon

inductive Status where
  | empty
  | created
  | running
  | paused
  | restarting
  | removing
  | exited
  | dead
deriving DecidableEq

def Status.ofText? : String → Option Status
  | "" => some .empty
  | "created" => some .created
  | "running" => some .running
  | "paused" => some .paused
  | "restarting" => some .restarting
  | "removing" => some .removing
  | "exited" => some .exited
  | "dead" => some .dead
  | _ => none

structure Inspection where
  id : Option String := none
  name : Option String := none
  status : Option Status := none
  pid : Option Int := none
deriving DecidableEq

namespace Inspection

/-- The process, if its number is one that a process can have; zero otherwise. -/
def process (i : Inspection) : Pid :=
  match i.pid with
  | some n => if 0 ≤ n ∧ n < 4294967296 then UInt32.ofNat n.toNat else 0
  | none => 0

/-- The state that a status stands for. -/
def state (i : Inspection) : LifeState :=
  match i.status with
  | some .running | some .restarting => if i.process ≠ 0 then .running else .stopped
  | some .created | none => .created
  | some .removing => .destroyed
  | some .empty | some .paused | some .exited | some .dead => .stopped

/-- The record of the inspected container; none without an id. -/
def record? (i : Inspection) : Option Container :=
  i.id.map fun id =>
    { id, name := i.name, state := i.state, pid := if i.state.isRunning then i.process else 0 }

/-! ## Reading

The daemon sends objects, and only objects are read as records. A field may be absent or `null`. -/

/-- The part of an inspection that tells the state: the status, the process and two flags that nobody
needs. -/
def readState? (j : Json) : Option (Option Status × Option Int) := do
  let [status, pid, running, paused] ←
    j.objectFields? ["Status", "Pid", "Running", "Paused"] | none
  let _ ← Json.optional Json.bool? running
  let _ ← Json.optional Json.bool? paused
  let status ← Json.optional (Json.choice? Status.ofText?) status
  let pid ← Json.optional Json.int64? pid
  return (status, pid)

def ofJson? (j : Json) : Option Inspection := do
  let [id, name, state] ← j.objectFields? ["Id", "Name", "State"] | none
  let id ← Json.optional Json.string? id
  let name ← Json.optional Json.string? name
  let (status, pid) := (← Json.optional readState? state).getD (none, none)
  return { id, name, status, pid }

end Inspection

end TrafficShaping.Daemon
