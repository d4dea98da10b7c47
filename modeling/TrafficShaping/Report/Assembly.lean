import TrafficShaping.Control
import TrafficShaping.Metrics.Sample
import TrafficShaping.NodeId

/-!
# Assembling a report

A report has a node for every running and every stopped container. The controls of a stopped one are dead
and its values unset. A running one shows what the cache holds for its namespace; where the cache holds
nothing, or the namespace cannot be found, it shows its sample. Every entry carries the same instant.
-/

namespace TrafficShaping.Report

open TrafficShaping (Container Control)

def pluginId : String := "network-control"

def plugin : Plugin where
  id := pluginId
  label := "Network control"
  description := "Adds Network controls to the running Docker containers"
  interfaces := ["reporter", "controller"]
  apiVersion := "1"

/-- The keys of the values of a node, after the common start. -/
def latencyKey : String := "latency"
def packetLossKey : String := "pktloss"
def peerKey : String := "dst-pod"

/-- The key of a value among the values of a node. -/
def valueKey (key : String) : String := Control.tableStart ++ key

/-- A number with one decimal place. -/
def tenths (n : Nat) : Number.Binary64 := (Number.Binary64.round false n 10 0).getD default

/-- The template of a value and its id. -/
def metadataTemplate (key label : String) (priority : Number.Binary64) :
    String × MetadataTemplate :=
  let id := pluginId ++ "-" ++ key
  (id, { id, label, priority, source := "latest" })

def tableId : String := "network-control-table"

/-- The part of the topology that does not depend on containers. -/
def emptyTopology : Topology where
  controls := .ofList (Control.all.map fun c => (c.id, c.advertised))
  metadataTemplates := .ofList [
    metadataTemplate latencyKey "Latency" (tenths 135),
    metadataTemplate packetLossKey "Packet Loss" (tenths 136)]
  tableTemplates := .ofList [(tableId, ⟨tableId, "Network Control", Control.tableStart⟩)]

/-- What a report is assembled from besides the containers: what is applied to the namespace of a process,
if anything, the samples by container id, and the instant. -/
structure Sources where
  applied? : Pid → Option Shape
  samples : Dict Sample := ∅
  timestamp : Instant

/-- Finds what is applied to the namespace of a process by way of the process's namespace. -/
def appliedIn {ε : Type} (cache : Cache) (resolve : Pid → Except ε Identity) (pid : Pid) :
    Option Shape :=
  (resolve pid).toOption.bind cache.get?

/-- The shape that a sample stands for. -/
def sampledShape (s : Sample) : Shape := ⟨s.latency, s.packetLoss⟩

/-- What a container shows: nothing unless it is running, what is applied if anything is, and its sample
otherwise. -/
def Sources.shape (s : Sources) (c : Container) : Shape :=
  if c.state.isRunning then
    (s.applied? c.pid).getD (((s.samples.get? c.id).map sampledShape).getD {})
  else {}

/-- The label of the peer of a running container. -/
def Sources.peer (s : Sources) (c : Container) : Param :=
  if c.state.isRunning then ((s.samples.get? c.id).map (·.label)).getD .unset else .unset

/-- The values of a node: both parameters, and the peer if there is one. -/
def Sources.latest (s : Sources) (c : Container) : Dict Entry :=
  let shape := s.shape c
  let entry (p : Param) : Entry := ⟨s.timestamp, p.text⟩
  .ofList <|
    [(valueKey latencyKey, entry shape.latency), (valueKey packetLossKey, entry shape.packetLoss)] ++
      (if (s.peer c).isSet then [(valueKey peerKey, entry (s.peer c))] else [])

/-- The controls of a node, dead unless the container is running. -/
def Sources.controls (s : Sources) (c : Container) : Dict ControlEntry :=
  .ofList (Control.all.map fun control => (control.id, ⟨s.timestamp, !c.state.isRunning⟩))

def Sources.node (s : Sources) (c : Container) : Node := ⟨s.controls c, s.latest c⟩

/-- The nodes of the containers that are reported. -/
def Sources.nodes (s : Sources) (containers : List Container) : Dict Node :=
  .ofList ((containers.filter (·.state.isReported)).map fun c => (NodeId.ofContainer c.id, s.node c))

/-- The report about containers. -/
def Sources.assemble (s : Sources) (containers : List Container) : Document where
  container := { emptyTopology with nodes := s.nodes containers }
  plugins := [plugin]

end TrafficShaping.Report
