import TrafficShaping.Report.Document
import TrafficShaping.Shaping.Shaper

/-!
# Controls

The fixed set of controls on every container: three latencies, a packet loss, and one that clears both. The
ids of controls and the keys of the values that a node shows begin alike, so that the host puts them in one
table.
-/

namespace TrafficShaping

inductive Control where
  | slow
  | medium
  | fast
  | packetDropLow
  | clear
deriving DecidableEq

namespace Control

/-- What the ids of controls and the keys of values begin with. -/
def tableStart : String := "network-control-table-"

/-- The controls in the order in which they are shown. -/
def all : List Control := [.slow, .medium, .fast, .packetDropLow, .clear]

/-- What follows `tableStart` in the id of a control. -/
def suffix : Control → String
  | .slow => "slow"
  | .medium => "medium"
  | .fast => "fast"
  | .packetDropLow => "pkt-drop-low"
  | .clear => "clear"

def human : Control → String
  | .slow => "Traffic speed: slow"
  | .medium => "Traffic speed: medium"
  | .fast => "Traffic speed: fast"
  | .packetDropLow => "Packet drop: low"
  | .clear => "Clear traffic control settings"

def icon : Control → String
  | .slow => "fa-hourglass-1"
  | .medium => "fa-hourglass-2"
  | .fast => "fa-hourglass-3"
  | .packetDropLow => "fa-cut"
  | .clear => "fa-times-circle"

def rank : Control → Int32
  | .slow => 20
  | .medium => 21
  | .fast => 22
  | .packetDropLow => 23
  | .clear => 24

def id (c : Control) : String := tableStart ++ c.suffix

/-- The control with an id. -/
def ofId? (id : String) : Option Control :=
  (Text.stripStart? tableStart id).bind fun s => all.find? (·.suffix == s)

/-- How a control is offered to the host. -/
def advertised (c : Control) : Report.Advertised := ⟨c.id, c.human, c.icon, c.rank⟩

/-- The dimension and the value that a control applies; `clear` applies none. -/
def preset? : Control → Option (Dimension × String)
  | .slow => some (.latency, "2000ms")
  | .medium => some (.latency, "1000ms")
  | .fast => some (.latency, "500ms")
  | .packetDropLow => some (.packetLoss, "10%")
  | .clear => none

/-- Performs a control on a process. -/
def perform {σ : Type} (s : Shaper σ) (control : Control) (pid : Pid) (c : Cache) (w : σ) :
    Except ShapingError Unit × Cache × σ :=
  match control.preset? with
  | some (d, value) => s.apply pid d value c w
  | none => s.clear pid c w

end Control

end TrafficShaping
