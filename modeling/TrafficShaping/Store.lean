import TrafficShaping.Container
import TrafficShaping.Dict

/-!
# The containers that are known

The store holds a record for every container that is known and has not been destroyed, under the
container's id. Records come in whole, from an inspection, or change by the events of a container's life.
An event about a container that is not known makes it known, so that one whose beginning was missed shows
up all the same. An event that carries no name leaves the name alone.
-/

namespace TrafficShaping

/-- A step in the life of a container. -/
inductive LifeEvent where
  | created (id : String) (name : Option String)
  | started (id : String) (name : Option String) (pid : Pid)
  | stopped (id : String)
  | destroyed (id : String)
deriving DecidableEq

namespace LifeEvent

def id : LifeEvent → String
  | .created id _ | .started id _ _ | .stopped id | .destroyed id => id

/-- The name that an event carries. -/
def name? : LifeEvent → Option String
  | .created _ name | .started _ name _ => name
  | .stopped _ | .destroyed _ => none

/-- The process of the container after the event. -/
def pid : LifeEvent → Pid
  | .started _ _ pid => pid
  | _ => 0

/-- The state of the container after the event. -/
def state : LifeEvent → LifeState
  | .created _ _ => .created
  | .started _ _ _ => .running
  | .stopped _ => .stopped
  | .destroyed _ => .destroyed

/-- What an event makes of a record. -/
def applyTo (e : LifeEvent) (c : Container) : Container :=
  { c with state := e.state, pid := e.pid, name := e.name?.or c.name }

end LifeEvent

structure Store where
  records : Dict Container := ∅
deriving DecidableEq

namespace Store

instance : Inhabited Store := ⟨{}⟩

def lookup (s : Store) (id : String) : Option Container := s.records.get? id

/-- Puts a record in the place of whatever was known about its container. -/
def upsert (s : Store) (c : Container) : Store := ⟨s.records.insert c.id c⟩

/-- Applies an event. A destroyed container is forgotten. -/
def apply (s : Store) (e : LifeEvent) : Store :=
  match e with
  | .destroyed id => ⟨s.records.erase id⟩
  | e => ⟨s.records.insert e.id (e.applyTo ((s.lookup e.id).getD { id := e.id }))⟩

/-- Keeps the records that satisfy `keep`. -/
def retain (s : Store) (keep : Container → Bool) : Store := ⟨s.records.filter fun _ c => keep c⟩

def size (s : Store) : Nat := s.records.size

/-- How many records go when only those that satisfy `keep` are kept. -/
def removed (s : Store) (keep : Container → Bool) : Nat := s.size - (s.retain keep).size

def isEmpty (s : Store) : Bool := s.records.isEmpty

/-- Every record, in the order of the ids. -/
def snapshot (s : Store) : List Container := s.records.values

end Store

end TrafficShaping
