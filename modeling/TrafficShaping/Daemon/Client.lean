import TrafficShaping.Daemon.Watch
import TrafficShaping.Reply
import TrafficShaping.Url

/-!
# Asking the daemon over HTTP

The daemon answers three requests: for the list of all containers, for one container, and for events. An
answer counts if its status says success and its body is what was asked for.

The id of a container becomes part of a reference as it is, so an id that is no name may lead elsewhere.
-/

namespace TrafficShaping.Daemon

inductive Request where
  | list
  | inspect (id : String)
  | events (since : Instant)
deriving DecidableEq

namespace Request

/-- What a request refers to. -/
def reference (r : Request) : Reference :=
  .ofText (match r with
    | .list => "/containers/json"
    | .inspect id => "/containers/" ++ id ++ "/json"
    | .events _ => "/events")

def path (r : Request) : String := r.reference.path

/-- Only events of containers are asked for. -/
def eventFilter : Json := Json.ofFields [("type", .array [.text "container"])]

/-- The parameters of a request. All containers are asked for, also those that do not run. An inspection
has none but what is in the id. -/
def query (r : Request) : List (String × String) :=
  match r with
  | .list => [("all", "true")]
  | .inspect _ => (r.reference.query.map Url.pairs).getD []
  | .events since =>
    [("since", since.text), ("filters", Text.Utf8.decodeLossy eventFilter.render)]

end Request

/-! ## Replies -/

/-- Whether a reply counts. So do those that say that nothing has changed, and that the connection is
now used for something else. -/
def isSuccess (r : Reply) : Bool :=
  200 ≤ r.status && r.status < 300 || r.status = 304 || r.status = 101

/-- The id in an item of the list of containers. -/
def readListed? (j : Json) : Option (Option String) := do
  let [id] ← j.objectFields? ["Id"] | none
  Json.optional Json.string? id

def readList? (r : Reply) : Option (List (Option String)) :=
  if isSuccess r then r.json?.bind (Json.list? readListed?) else none

def readInspection? (r : Reply) : Option Inspection :=
  if isSuccess r then r.json?.bind Inspection.ofJson? else none

def readEvents? (r : Reply) : Option EventStream :=
  if isSuccess r then some (.ofArrivals r.arrivals) else none

/-- The daemon behind a transport, which may fail to get a reply. -/
def ofTransport {σ : Type} (send : Request → σ → Option Reply × σ) : Daemon σ where
  list w := let (r, w) := send .list w; (r.bind readList?, w)
  inspect id w := let (r, w) := send (.inspect id) w; (r.bind readInspection?, w)
  events since w := let (r, w) := send (.events since) w; (r.bind readEvents?, w)

end TrafficShaping.Daemon
