import TrafficShaping.Dict
import TrafficShaping.Json.Beginning
import TrafficShaping.Text.Blank

/-!
# Events of the daemon

The daemon tells what happens to its objects, containers among them. Of an event the type, the action and
the actor matter: which object it is about, and attributes such as the object's name.

An event brings about a transition only if it is about a container, says which one, and has one of a few
actions. An action may carry details after a colon. That a container was killed says nothing, since any
signal counts as a kill; its end is told by an event of its own.
-/

namespace TrafficShaping.Daemon

/-- What an event is about. -/
inductive ObjectType where
  | empty
  | builder
  | config
  | container
  | daemon
  | image
  | network
  | node
  | plugin
  | secret
  | service
  | volume
deriving DecidableEq

def ObjectType.ofText? : String → Option ObjectType
  | "" => some .empty
  | "builder" => some .builder
  | "config" => some .config
  | "container" => some .container
  | "daemon" => some .daemon
  | "image" => some .image
  | "network" => some .network
  | "node" => some .node
  | "plugin" => some .plugin
  | "secret" => some .secret
  | "service" => some .service
  | "volume" => some .volume
  | _ => none

/-- The object that an event is about. -/
structure Actor where
  id : Option String := none
  attributes : Option (Dict String) := none

structure Event where
  type : Option ObjectType := none
  action : Option String := none
  actor : Option Actor := none

/-- What an event does to a container. -/
inductive Transition where
  | create
  | start
  | stop
  | destroy
deriving DecidableEq

/-- The transition that an action stands for. -/
def Transition.ofAction? (action : String) : Option Transition :=
  match Text.trim (String.ofList (action.toList.takeWhile (· ≠ ':'))) with
  | "create" => some .create
  | "start" | "restart" | "unpause" => some .start
  | "die" | "stop" | "pause" => some .stop
  | "destroy" => some .destroy
  | _ => none

/-- A transition of a container, with the name that the event gives the container. -/
structure Change where
  transition : Transition
  id : String
  name : Option String
deriving DecidableEq

/-- What an event changes. An event without a type may be about a container. Names are given without the
slash that they start with elsewhere. -/
def Event.change? (e : Event) : Option Change := do
  if e.type.any (· ≠ .container) then none
  else
    let actor ← e.actor
    return {
      transition := ← e.action.bind Transition.ofAction?
      id := ← actor.id
      name := (actor.attributes.bind (·.get? "name")).map ("/" ++ ·) }

/-! ## Reading

Every field may be absent or `null`. The scope and the two times matter to nobody but have to be what they
should be. -/

def Actor.ofJson? (j : Json) : Option Actor := do
  let [id, attributes] ← j.exactFields? ["ID", "Attributes"] | none
  return {
    id := ← Json.optional Json.string? id
    attributes := ← Json.optional (Json.dict? Json.string?) attributes }

/-- Whether a text names the scope of an event. -/
def isScope (s : String) : Bool := s = "" || s = "local" || s = "swarm"

/-- The scope of an event, of which only that it is one is kept. -/
def scope? (s : String) : Option Unit := if isScope s then some () else none

def Event.ofJson? (j : Json) : Option Event := do
  let [type, action, actor, scope, time, timeNano] ←
    j.exactFields? ["Type", "Action", "Actor", "scope", "time", "timeNano"] | none
  let _ ← Json.optional (Json.choice? scope?) scope
  let _ ← Json.optional Json.int64? time
  let _ ← Json.optional Json.int64? timeNano
  return {
    type := ← Json.optional (Json.choice? ObjectType.ofText?) type
    action := ← Json.optional Json.string? action
    actor := ← Json.optional Actor.ofJson? actor }

/-! ## Beginnings -/

open Json (Kind)

/-- Actors, as far as they have come. -/
def Actor.kind : Kind :=
  .record Actor.ofJson?
    [("ID", .optional (.scalar Json.string?)),
      ("Attributes", .optional (.dict Json.string? (.scalar Json.string?)))]

/-- Events, as far as they have come. -/
def Event.kind : Kind :=
  .record Event.ofJson?
    [("Type", .optional (.choice ObjectType.ofText?)),
      ("Action", .optional (.scalar Json.string?)),
      ("Actor", .optional Actor.kind),
      ("scope", .optional (.choice scope?)),
      ("time", .optional (.scalar Json.int64?)),
      ("timeNano", .optional (.scalar Json.int64?))]

end TrafficShaping.Daemon
