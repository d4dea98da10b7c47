import TrafficShaping.Dict
import TrafficShaping.Instant
import TrafficShaping.Number.Binary64

/-!
# The report document

What the visualization host polls: the nodes of the container topology, the controls that it may offer on
them, and templates that say how their values are shown. All maps are dictionaries, so equal documents have
equal texts.
-/

namespace TrafficShaping.Report

/-- A value that a node shows, and since when. -/
structure Entry where
  timestamp : Instant
  value : String
deriving DecidableEq

/-- Whether a control can be used on a node, and since when. -/
structure ControlEntry where
  timestamp : Instant
  dead : Bool
deriving DecidableEq

structure Node where
  controls : Dict ControlEntry := ∅
  latest : Dict Entry := ∅
deriving DecidableEq

/-- A control as it is offered. Controls are shown by rank. -/
structure Advertised where
  id : String
  human : String
  icon : String
  rank : Int32
deriving DecidableEq

/-- How a single value of a node is shown and where it is taken from. -/
structure MetadataTemplate where
  id : String
  label : String := ""
  truncate : UInt32 := 0
  dataType : String := ""
  priority : Number.Binary64 := .zero false
  source : String := ""
deriving DecidableEq

/-- Puts the values whose keys have a common start into one table. -/
structure TableTemplate where
  id : String
  label : String
  keyStart : String
deriving DecidableEq

structure Topology where
  nodes : Dict Node := ∅
  controls : Dict Advertised := ∅
  metadataTemplates : Dict MetadataTemplate := ∅
  tableTemplates : Dict TableTemplate := ∅
deriving DecidableEq

/-- What a plugin says about itself. -/
structure Plugin where
  id : String
  label : String
  description : String := ""
  interfaces : List String
  apiVersion : String := ""
deriving DecidableEq

structure Document where
  container : Topology
  plugins : List Plugin
deriving DecidableEq

end TrafficShaping.Report
