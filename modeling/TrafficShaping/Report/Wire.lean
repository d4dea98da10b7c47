import TrafficShaping.Json.Fields
import TrafficShaping.Report.Document

/-!
# Reports in JSON

Each part of a document has a writer and a reader. A field that may be left out is left out when it has its
default, and the reader puts the default back.
-/

namespace TrafficShaping.Report

/-- A field that is written unless it has its default. -/
def omitIf (isDefault : Bool) (name : String) (value : Json) : List (String × Json) :=
  if isDefault then [] else [(name, value)]

def instantJson (t : Instant) : Json := .text t.text

def readInstant? (j : Json) : Option Instant := j.string?.bind Instant.read?

def Entry.toJson (e : Entry) : Json :=
  .ofFields [("timestamp", instantJson e.timestamp), ("value", .text e.value)]

def Entry.ofJson? (j : Json) : Option Entry := do
  let [timestamp, value] ← j.fields? ["timestamp", "value"] | none
  return ⟨← Json.required readInstant? timestamp, ← Json.required Json.string? value⟩

def ControlEntry.toJson (e : ControlEntry) : Json :=
  .ofFields [("timestamp", instantJson e.timestamp),
    ("value", .ofFields [("dead", .bool e.dead)])]

/-- The state of a control, a record of its own. -/
def readDead? (j : Json) : Option Bool := do
  let [dead] ← j.fields? ["dead"] | none
  Json.required Json.bool? dead

def ControlEntry.ofJson? (j : Json) : Option ControlEntry := do
  let [timestamp, value] ← j.fields? ["timestamp", "value"] | none
  return ⟨← Json.required readInstant? timestamp, ← Json.required readDead? value⟩

def Node.toJson (n : Node) : Json :=
  .ofFields <|
    omitIf n.controls.isEmpty "latestControls" (.ofDict ControlEntry.toJson n.controls) ++
      omitIf n.latest.isEmpty "latest" (.ofDict Entry.toJson n.latest)

def Node.ofJson? (j : Json) : Option Node := do
  let [controls, latest] ← j.fields? ["latestControls", "latest"] | none
  return {
    controls := ← Json.withDefault ∅ (Json.dict? ControlEntry.ofJson?) controls
    latest := ← Json.withDefault ∅ (Json.dict? Entry.ofJson?) latest }

def Advertised.toJson (c : Advertised) : Json :=
  .ofFields [("id", .text c.id), ("human", .text c.human), ("icon", .text c.icon),
    ("rank", .integer c.rank.toInt)]

def readInt32? (j : Json) : Option Int32 :=
  (j.integerBetween? (-2147483648) 2147483647).map Int32.ofInt

def readUInt32? (j : Json) : Option UInt32 :=
  (j.integerBetween? 0 4294967295).map fun i => UInt32.ofNat i.toNat

def Advertised.ofJson? (j : Json) : Option Advertised := do
  let [id, human, icon, rank] ← j.fields? ["id", "human", "icon", "rank"] | none
  return ⟨← Json.required Json.string? id, ← Json.required Json.string? human,
    ← Json.required Json.string? icon, ← Json.required readInt32? rank⟩

def MetadataTemplate.toJson (t : MetadataTemplate) : Json :=
  .ofFields <|
    ("id", .text t.id) ::
      omitIf (t.label = "") "label" (.text t.label) ++
      omitIf (t.truncate = 0) "truncate" (.integer t.truncate.toNat) ++
      omitIf (t.dataType = "") "dataType" (.text t.dataType) ++
      omitIf t.priority.isZero "priority" (.number (.ofDouble t.priority)) ++
      omitIf (t.source = "") "from" (.text t.source)

def MetadataTemplate.ofJson? (j : Json) : Option MetadataTemplate := do
  let [id, label, truncate, dataType, priority, source] ←
    j.fields? ["id", "label", "truncate", "dataType", "priority", "from"] | none
  return {
    id := ← Json.required Json.string? id
    label := ← Json.withDefault "" Json.string? label
    truncate := ← Json.withDefault 0 readUInt32? truncate
    dataType := ← Json.withDefault "" Json.string? dataType
    priority := ← Json.withDefault (.zero false) Json.double? priority
    source := ← Json.withDefault "" Json.string? source }

def TableTemplate.toJson (t : TableTemplate) : Json :=
  .ofFields [("id", .text t.id), ("label", .text t.label), ("prefix", .text t.keyStart)]

def TableTemplate.ofJson? (j : Json) : Option TableTemplate := do
  let [id, label, keyStart] ← j.fields? ["id", "label", "prefix"] | none
  return ⟨← Json.required Json.string? id, ← Json.required Json.string? label,
    ← Json.required Json.string? keyStart⟩

def Topology.toJson (t : Topology) : Json :=
  .ofFields <|
    ("nodes", .ofDict Node.toJson t.nodes) :: ("controls", .ofDict Advertised.toJson t.controls) ::
      omitIf t.metadataTemplates.isEmpty "metadata_templates"
        (.ofDict MetadataTemplate.toJson t.metadataTemplates) ++
      omitIf t.tableTemplates.isEmpty "table_templates"
        (.ofDict TableTemplate.toJson t.tableTemplates)

def Topology.ofJson? (j : Json) : Option Topology := do
  let [nodes, controls, metadata, tables] ←
    j.fields? ["nodes", "controls", "metadata_templates", "table_templates"] | none
  return {
    nodes := ← Json.required (Json.dict? Node.ofJson?) nodes
    controls := ← Json.required (Json.dict? Advertised.ofJson?) controls
    metadataTemplates := ← Json.withDefault ∅ (Json.dict? MetadataTemplate.ofJson?) metadata
    tableTemplates := ← Json.withDefault ∅ (Json.dict? TableTemplate.ofJson?) tables }

def Plugin.toJson (p : Plugin) : Json :=
  .ofFields <|
    ("id", .text p.id) :: ("label", .text p.label) ::
      omitIf (p.description = "") "description" (.text p.description) ++
      ("interfaces", .array (p.interfaces.map Json.text)) ::
      omitIf (p.apiVersion = "") "api_version" (.text p.apiVersion)

def Plugin.ofJson? (j : Json) : Option Plugin := do
  let [id, label, description, interfaces, apiVersion] ←
    j.fields? ["id", "label", "description", "interfaces", "api_version"] | none
  return {
    id := ← Json.required Json.string? id
    label := ← Json.required Json.string? label
    description := ← Json.withDefault "" Json.string? description
    interfaces := ← Json.required (Json.list? Json.string?) interfaces
    apiVersion := ← Json.withDefault "" Json.string? apiVersion }

def Document.toJson (d : Document) : Json :=
  .ofFields [("Container", d.container.toJson), ("Plugins", .array (d.plugins.map Plugin.toJson))]

def Document.ofJson? (j : Json) : Option Document := do
  let [container, plugins] ← j.fields? ["Container", "Plugins"] | none
  return ⟨← Json.required Topology.ofJson? container,
    ← Json.required (Json.list? Plugin.ofJson?) plugins⟩

end TrafficShaping.Report
