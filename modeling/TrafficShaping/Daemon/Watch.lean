import TrafficShaping.Daemon.EventStream
import TrafficShaping.Daemon.Inspection
import TrafficShaping.Instant
import TrafficShaping.Store

/-!
# Watching the daemon

The store is kept in step with the daemon in two ways. A sync asks for every container there is and inspects
each of them; afterwards only listed containers are known. Between syncs, events change one container at a
time. A container is taken for running only after an inspection has said so, since only an inspection knows
its process.

The daemon has a state of its own and may answer the same question differently each time. A watch asks for
the events since before its sync, so what happened during the sync is heard again afterwards.
-/

namespace TrafficShaping

open Daemon (Change Event EventStream Inspection)

/-- What a watch asks of the daemon, over the state `σ` of the daemon; none is a failure. -/
structure Daemon (σ : Type) where
  list : σ → Option (List (Option String)) × σ
  inspect : String → σ → Option Inspection × σ
  events : Instant → σ → Option EventStream × σ

inductive WatchError where
  | client
  | streamEnded
deriving DecidableEq

/-- What the error says; a failure of the client has no wording of its own. -/
def WatchError.message? : WatchError → Option String
  | .client => none
  | .streamEnded => some "docker event stream ended"

namespace Daemon

variable {σ : Type}

/-- The record of a container, if it can be inspected and its inspection carries an id. -/
def record? (d : Daemon σ) (id : String) (w : σ) : Option Container × σ :=
  let (inspection, w) := d.inspect id w
  (inspection.bind Inspection.record?, w)

/-- Inspects listed containers. One that is being removed does not count as listed; one without a record
does, and what is known about it stays. -/
def inspectAll (d : Daemon σ) : List String → Store → σ → List String × Store × σ
  | [], s, w => ([], s, w)
  | id :: ids, s, w =>
    match d.record? id w with
    | (none, w) =>
      let (listed, s, w) := d.inspectAll ids s w
      (id :: listed, s, w)
    | (some c, w) =>
      if c.state = .destroyed then d.inspectAll ids s w
      else
        let (listed, s, w) := d.inspectAll ids (s.upsert c) w
        (id :: listed, s, w)

/-- Records every container that there is and forgets those that there are not. -/
def sync (d : Daemon σ) (s : Store) (w : σ) : Except WatchError Unit × Store × σ :=
  match d.list w with
  | (none, w) => (.error .client, s, w)
  | (some ids, w) =>
    let (listed, s, w) := d.inspectAll (ids.filterMap id) s w
    (.ok (), s.retain fun c => listed.contains c.id, w)

/-- Applies a change. A start counts only if the container is found running; the name is then that of the
inspection, if it has one. -/
def change (d : Daemon σ) (s : Store) (c : Change) (w : σ) : Store × σ :=
  match c.transition with
  | .create => (s.apply (.created c.id c.name), w)
  | .stop => (s.apply (.stopped c.id), w)
  | .destroy => (s.apply (.destroyed c.id), w)
  | .start =>
    match d.record? c.id w with
    | (some found, w) =>
      if found.state.isRunning then (s.apply (.started c.id (found.name.or c.name) found.pid), w)
      else (s, w)
    | (none, w) => (s, w)

/-- Handles an event. -/
def handle (d : Daemon σ) (s : Store) (e : Event) (w : σ) : Store × σ :=
  match e.change? with
  | some c => d.change s c w
  | none => (s, w)

/-- Handles events in order. -/
def follow (d : Daemon σ) (events : List Event) (s : Store) (w : σ) : Store × σ :=
  events.foldl (fun (s, w) e => d.handle s e w) (s, w)

/-- Syncs and then handles events until there are no more. A watch that ends has always failed. -/
def watch (d : Daemon σ) (since : Instant) (s : Store) (w : σ) : WatchError × Store × σ :=
  match d.sync s w with
  | (.error e, s, w) => (e, s, w)
  | (.ok (), s, w) =>
    match d.events since w with
    | (none, w) => (.client, s, w)
    | (some stream, w) =>
      let (s, w) := d.follow stream.events s w
      (match stream.ending with
        | .ended => .streamEnded
        | .failed => .client, s, w)

end Daemon

end TrafficShaping
