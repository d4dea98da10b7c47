import TrafficShaping.Metrics.Response
import TrafficShaping.Reply
import TrafficShaping.Text.Quoted

/-!
# Querying a time series database

The latest point of each of two measurements is asked for, among the points whose source is the container.
The source is the container's pod if it has one, or else its name, or else its id. It goes into the
statement as a string literal, whose quotes and backslashes are escaped, so that no name can be anything
else than a name there.
-/

namespace TrafficShaping.Metrics

structure InfluxOptions where
  url : String
  database : String := "ican"
  latency : String := "p2ptxbyte"
  packetLoss : String := "p2ptxpkt"
deriving DecidableEq

/-- The options by name, for logs. -/
def InfluxOptions.text (o : InfluxOptions) : String :=
  "InfluxOptions \x7b url: " ++ Text.quoted o.url ++ ", database: " ++ Text.quoted o.database ++
    ", latency_measurement: " ++ Text.quoted o.latency ++ ", packet_loss_measurement: " ++
    Text.quoted o.packetLoss ++ " \x7d"

/-- How a character is written inside a string literal. -/
def escapedChar (c : Char) : List Char := if c = '\\' ∨ c = '\'' then ['\\', c] else [c]

def escaped (s : String) : String := String.ofList (s.toList.flatMap escapedChar)

/-- What measurements name a container by. -/
def sourceName (c : Container) : String :=
  (c.pod?.or (c.name.map (Text.trimStartOf '/'))).getD c.id

structure Query where
  url : String
  parameters : List (String × String)
deriving DecidableEq

namespace InfluxOptions

/-- The statement before the literal. -/
def statementStart (o : InfluxOptions) : String :=
  "SELECT * FROM \"" ++ o.latency ++ "\", \"" ++ o.packetLoss ++ "\" WHERE \"spod_name\" = "

/-- The statement after the literal. -/
def statementEnd : String := " ORDER BY time DESC LIMIT 1"

def statement (o : InfluxOptions) (source : String) : String :=
  o.statementStart ++ "'" ++ escaped source ++ "'" ++ statementEnd

def query (o : InfluxOptions) (c : Container) : Query where
  url := Text.trimEndOf '/' o.url ++ "/query"
  parameters := [("db", o.database), ("q", o.statement (sourceName c))]

/-- The sample in a reply. Any status counts but those of an error. -/
def sample (o : InfluxOptions) (r : Reply) : Except MetricsError Sample :=
  if 400 ≤ r.status ∧ r.status < 600 then .error .http
  else match r.json?.bind Response.ofJson? with
    | none => .error .http
    | some response => response.sample o.latency o.packetLoss

/-- The database behind a transport, which may fail to get a reply. -/
def source (o : InfluxOptions) (send : Query → Option Reply) : MetricsSource := fun c =>
  some (match send (o.query c) with
    | none => .error .http
    | some r => o.sample r)

end InfluxOptions

end TrafficShaping.Metrics
