import TrafficShaping.Namespace

/-!
# Containers

What is known about a container: its id, the process it runs as, its name and where it is in its life. Only
a running container has a process, and only running and stopped ones are reported.

Containers of a Kubernetes pod are named `k8s_<container>_<pod>_<namespace>_<uid>_<attempt>`, after any
number of slashes.
-/

namespace TrafficShaping

inductive LifeState where
  | created
  | running
  | stopped
  | destroyed
deriving DecidableEq

def LifeState.isReported : LifeState → Bool
  | .running | .stopped => true
  | .created | .destroyed => false

def LifeState.isRunning : LifeState → Bool
  | .running => true
  | _ => false

/-- The pod in the name of a container. -/
def podOf? (name : String) : Option String :=
  match Text.splitAt '_' (Text.trimStartOf '/' name) with
  | "k8s" :: _ :: pod :: _ :: _ :: _ :: _ => if pod = "" then none else some pod
  | _ => none

structure Container where
  id : String
  name : Option String := none
  pid : Pid := 0
  state : LifeState := .created
deriving DecidableEq

def Container.pod? (c : Container) : Option String := c.name.bind podOf?

end TrafficShaping
