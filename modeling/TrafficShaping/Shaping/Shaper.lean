import TrafficShaping.Shaping.Cache
import TrafficShaping.Shaping.Command
import TrafficShaping.Shaping.Error

/-!
# Shaping a process

The shaper applies and clears parameters on the network namespace of a process and keeps the cache in step
with what was applied. It does so on a host, which says which namespace a process is in and runs commands
there. A host has a state of its own and may answer the same question differently each time.

An operation finds the namespace, runs its commands under the namespace's lock, and then looks whether the
process is still where it was. Only then does it write the cache, so an operation that fails at any of
these steps leaves every entry as it was.
-/

namespace TrafficShaping

/-- What the shaper asks of the machine it works on, over the state `σ` of that machine. -/
structure Host (σ : Type) where
  resolve : Pid → σ → Except ShapingError Identity × σ
  run : Pid → List Command → σ → Except ShapingError Unit × σ

structure Shaper (σ : Type) where
  builder : CommandBuilder := {}
  host : Host σ

namespace Shaper

variable {σ : Type}

/-- Whether a process is still in a namespace. -/
def confirm (s : Shaper σ) (pid : Pid) (expected : Identity) (w : σ) :
    Except ShapingError Unit × σ :=
  match s.host.resolve pid w with
  | (.ok n, w) => (if n = expected then .ok () else .error (.changed pid expected), w)
  | (.error e, w) => (.error e, w)

/-- Runs commands in a namespace and writes the cache if they took effect there. Both the commands and the
write may depend on the cache. -/
def perform (s : Shaper σ) (pid : Pid) (commands : Identity → Cache → List Command)
    (commit : Identity → Cache → Cache) (c : Cache) (w : σ) :
    Except ShapingError Unit × Cache × σ :=
  match s.host.resolve pid w with
  | (.error e, w) => (.error e, c, w)
  | (.ok n, w) =>
    c.locked n fun c =>
      match s.host.run pid (commands n c) w with
      | (.error e, w) => (.error e, c, w)
      | (.ok (), w) =>
        match s.confirm pid n w with
        | (.error e, w) => (.error e, c, w)
        | (.ok (), w) => (.ok (), commit n c, w)

/-- Applies a value to one dimension and keeps the other one. A blank value asks for nothing. -/
def apply (s : Shaper σ) (pid : Pid) (d : Dimension) (value : String) (c : Cache) (w : σ) :
    Except ShapingError Unit × Cache × σ :=
  if Text.trim value = "" then (.ok (), c, w)
  else
    s.perform pid (fun n c => s.builder.build d value ((c.read n).get d.other))
      (fun n c => c.apply n (.ofText d value)) c w

/-- Clears both dimensions. -/
def clear (s : Shaper σ) (pid : Pid) (c : Cache) (w : σ) : Except ShapingError Unit × Cache × σ :=
  s.perform pid (fun _ _ => s.builder.clear) (fun n c => c.clear n) c w

/-- What is applied to the namespace of a process. -/
def status (s : Shaper σ) (pid : Pid) (c : Cache) (w : σ) : Except ShapingError Shape × σ :=
  match s.host.resolve pid w with
  | (.ok n, w) => (.ok (c.read n), w)
  | (.error e, w) => (.error e, w)

end Shaper

end TrafficShaping
