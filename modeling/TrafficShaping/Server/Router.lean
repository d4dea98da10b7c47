import TrafficShaping.ControlRequest
import TrafficShaping.Dispatch
import TrafficShaping.Report.Assembly
import TrafficShaping.Report.Wire
import TrafficShaping.Server.Target

/-!
# The HTTP surface

The host polls `GET /report` and sends controls to `POST /control`. A report is answered whatever the
metrics source does. A control is answered with the error it met, if any, inside a successful response:
only a request that cannot be read, or whose node id is malformed, is a bad request.

Paths are exact, the name of a server and a query are ignored, `HEAD` is `GET` without the body, and a body
past the limit is refused before it is read. A request whose first line cannot be read is refused whatever
else it says.

Both handlers work on a thread of their own, and answer status 500 if that work ends without a result. It does
so when it panics or when the runtime is shut down under it, and neither is a part of the model; nor is an
error in writing a report, which has no part that cannot be written. So no answer here has that status.
-/

namespace TrafficShaping

structure HttpRequest where
  method : String
  target : String
  body : List UInt8 := []

structure HttpResponse where
  status : Nat
  contentType : Option String := none
  allow : Option String := none
  body : List UInt8 := []
deriving DecidableEq

namespace HttpResponse

def json (status : Nat) (j : Json) : HttpResponse where
  status := status
  contentType := some "application/json"
  body := j.render

def malformed : HttpResponse := { status := 400 }

def notFound : HttpResponse := { status := 404 }

def targetTooLong : HttpResponse := { status := 414 }

def notAllowed (allow : String) : HttpResponse := { status := 405, allow := some allow }

def tooLarge : HttpResponse where
  status := 413
  contentType := some "text/plain; charset=utf-8"
  body := Text.Utf8.encode "Failed to buffer the request body: length limit exceeded"

end HttpResponse

/-- Whether a text is the name of a method. -/
def isMethod (s : String) : Bool :=
  s ≠ "" && s.toList.all fun c =>
    c.isAlphanum ||
      ['!', '#', '$', '%', '&', '\'', '*', '+', '-', '.', '^', '_', '\x60', '|', '~'].contains c

/-- The most bytes a body may have. -/
def bodyLimit : Nat := 2097152

/-- What answers requests: the shaper, the metrics source, and the words in which the reader of requests says
what is wrong with a body that is none. The words are those of a library, and any are possible here. -/
structure Service (σ : Type) where
  shaper : Shaper σ
  metrics : Informant σ
  unreadable : List UInt8 → String

namespace Service

variable {σ : Type}

/-- The report on the containers in a store, and the world that the queries for it leave: the running
containers are enriched, and then namespaces are looked up on the host as it is. -/
def report (s : Service σ) (store : Store) (now : Instant) (c : Cache) (w : σ) : Report.Document × σ :=
  let containers := store.snapshot
  let (samples, w) := s.metrics.enrich (containers.filter (·.state.isRunning)) w
  let sources : Report.Sources := {
    applied? := Report.appliedIn c fun pid => (s.shaper.host.resolve pid w).1
    samples
    timestamp := now }
  (sources.assemble containers, w)

/-- The answer to a control, by how its dispatch ended. -/
def controlAnswer : Except DispatchError Control → HttpResponse
  | .ok _ => .json 200 ({} : ControlResponse).toJson
  | .error (.malformedNodeId nodeId) =>
    .json 400 (ControlResponse.mk (some (NodeId.malformedMessage nodeId))).toJson
  | .error e => .json 200 (ControlResponse.mk (some e.message)).toJson

/-- Answers a control request. -/
def control (s : Service σ) (store : Store) (body : List UInt8) (c : Cache) (w : σ) :
    HttpResponse × Cache × σ :=
  match ControlRequest.read? body with
  | none => (.json 400 (ControlResponse.mk (some (s.unreadable body))).toJson, c, w)
  | some r =>
    let (outcome, c, w) := s.shaper.dispatch store r.nodeId r.control c w
    (controlAnswer outcome, c, w)

/-- Answers a request by its path. -/
def answerAt (s : Service σ) (store : Store) (now : Instant) (path : String) (r : HttpRequest) (c : Cache)
    (w : σ) : HttpResponse × Cache × σ :=
  if path = "/report" then
    if r.method = "GET" then
      let (document, w) := s.report store now c w
      (.json 200 document.toJson, c, w)
    else if r.method = "HEAD" then
      let (document, w) := s.report store now c w
      ({ HttpResponse.json 200 document.toJson with body := [] }, c, w)
    else (.notAllowed "GET,HEAD", c, w)
  else if path = "/control" then
    if r.method = "POST" then
      if bodyLimit < r.body.length then (.tooLarge, c, w) else s.control store r.body c w
    else (.notAllowed "POST", c, w)
  else (.notFound, c, w)

/-- Answers any request. -/
def answer (s : Service σ) (store : Store) (now : Instant) (r : HttpRequest) (c : Cache) (w : σ) :
    HttpResponse × Cache × σ :=
  match targetPath r.target with
  | .error .tooLong => if isMethod r.method then (.targetTooLong, c, w) else (.malformed, c, w)
  | .error .malformed => (.malformed, c, w)
  | .ok path => if isMethod r.method then s.answerAt store now path r c w else (.malformed, c, w)

end Service

end TrafficShaping
