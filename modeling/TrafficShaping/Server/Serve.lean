import TrafficShaping.Server.Router
import TrafficShaping.Server.Socket
import TrafficShaping.SocketAddress

/-!
# Serving

A server answers the requests that reach it one after the other, each on the cache and the host as the ones
before have left them. It listens either at a socket in the file system, which it removes when it is shut
down, or at an address that nobody else listens at.
-/

namespace TrafficShaping

namespace Service

variable {σ : Type}

/-- Answers a request that comes over a connection. One whose first line cannot be told apart into words is
refused. -/
def answerArriving (s : Service σ) (store : Store) (now : Instant) (r : HttpRequest) (c : Cache) (w : σ) :
    HttpResponse × Cache × σ :=
  if Target.isWord r.target then s.answer store now r c w else (.malformed, c, w)

/-- Answers requests in order. -/
def answerAll (s : Service σ) (store : Store) (now : Instant) :
    List HttpRequest → Cache → σ → List HttpResponse × Cache × σ
  | [], c, w => ([], c, w)
  | r :: rs, c, w =>
    let (answer, c, w) := s.answerArriving store now r c w
    let (answers, c, w) := s.answerAll store now rs c w
    (answer :: answers, c, w)

/-- Serves at a socket until it is shut down. -/
def serveSocket (s : Service σ) (store : Store) (now : Instant) (p : Path) (rs : List HttpRequest)
    (fs : FileSystem) (c : Cache) (w : σ) :
    Except FileError (List HttpResponse) × FileSystem × Cache × σ :=
  match fs.bind p with
  | (.error e, fs) => (.error e, fs, c, w)
  | (.ok (listener, guard), fs) =>
    let (answers, c, w) := s.answerAll store now rs c w
    (.ok answers, (fs.unlisten listener).release guard, c, w)

/-- Serves at an address until it is shut down. -/
def serveAddress (s : Service σ) (store : Store) (now : Instant) (a : SocketAddress)
    (rs : List HttpRequest) (inUse : List SocketAddress) (c : Cache) (w : σ) :
    Except FileError (List HttpResponse) × Cache × σ :=
  if a ∈ inUse then (.error (.system .addressInUse), c, w)
  else
    let (answers, c, w) := s.answerAll store now rs c w
    (.ok answers, c, w)

end Service

end TrafficShaping
