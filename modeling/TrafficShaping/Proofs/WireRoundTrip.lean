import TrafficShaping.ControlRequest
import TrafficShaping.Proofs.JsonRecords
import TrafficShaping.Proofs.Timestamps

/-!
# What is written reads back

Reports and their parts, control requests and their answers: what is written of a value reads as an equal
value, and that is written as the same text. So nothing is lost by leaving out a field, and a text stands for one
value only. An instant is written in UTC, whichever offset it was given with, and is the same instant then: a
timestamp is read as the one instant that it denotes.

Priorities are the exception on two counts. A zero priority is left out whatever its sign, so values are
compared with their priorities as numbers. And a double is read in double arithmetic, which need not come back
to the double that its shortest decimal was made from; that it does is assumed of the priorities in question.
-/

namespace TrafficShaping

open Json (ReadsAs FieldReadsAs given present fieldsWritable_nil)
open Number (Binary64)

/-! ## Priorities as numbers -/

/-- A double as a number: both zeros are one. -/
def Number.Binary64.asNumber (x : Binary64) : Binary64 := if x.isZero then .zero false else x

/-- Whether a double is the one that its decimal is read as. -/
def Number.Binary64.ReadsBack (x : Binary64) : Prop := (Json.Number.ofDouble x).double? = some x

theorem Number.Binary64.isZero_asNumber (x : Binary64) : x.asNumber.isZero = x.isZero := by
  rw [asNumber]
  split
  · next h => exact h.symm
  · rfl

theorem Number.Binary64.asNumber_of_isZero {x : Binary64} (h : x.isZero = true) :
    x.asNumber = .zero false := if_pos h

theorem Number.Binary64.asNumber_of_not_isZero {x : Binary64} (h : x.isZero = false) : x.asNumber = x :=
  if_neg (by rw [h]; decide)

namespace Report

def MetadataTemplate.asNumbers (t : MetadataTemplate) : MetadataTemplate :=
  { t with priority := t.priority.asNumber }

def Topology.asNumbers (t : Topology) : Topology :=
  { t with metadataTemplates := t.metadataTemplates.map MetadataTemplate.asNumbers }

def Topology.priorities (t : Topology) : List Binary64 := t.metadataTemplates.values.map (·.priority)

def Document.asNumbers (d : Document) : Document := { d with container := d.container.asNumbers }

/-! A value and the same value with its priorities as numbers are written alike. -/

theorem MetadataTemplate.toJson_asNumbers (t : MetadataTemplate) : t.asNumbers.toJson = t.toJson := by
  have hpriority : omitIf t.priority.asNumber.isZero "priority" (.number (.ofDouble t.priority.asNumber)) =
      omitIf t.priority.isZero "priority" (.number (.ofDouble t.priority)) := by
    rw [Number.Binary64.isZero_asNumber]
    cases h : t.priority.isZero with
    | true => rfl
    | false => rw [Number.Binary64.asNumber_of_not_isZero h]
  rw [toJson, toJson, asNumbers, hpriority]

theorem Topology.toJson_asNumbers (t : Topology) : t.asNumbers.toJson = t.toJson := by
  have hempty : (t.metadataTemplates.map MetadataTemplate.asNumbers).isEmpty =
      t.metadataTemplates.isEmpty := List.isEmpty_map
  have hdict : Json.ofDict MetadataTemplate.toJson (t.metadataTemplates.map MetadataTemplate.asNumbers) =
      Json.ofDict MetadataTemplate.toJson t.metadataTemplates := by
    rw [Json.ofDict, Json.ofDict, Dict.map, List.map_map]
    exact congrArg Json.ofFields
      (List.map_congr_left fun e _ => congrArg (e.1, ·) e.2.toJson_asNumbers)
  rw [toJson, toJson, asNumbers, hempty, hdict]

theorem Document.toJson_asNumbers (d : Document) : d.asNumbers.toJson = d.toJson := by
  rw [toJson, toJson, asNumbers, Topology.toJson_asNumbers]

theorem MetadataTemplate.asNumbers_asNumbers (t : MetadataTemplate) : t.asNumbers.asNumbers = t.asNumbers := by
  have hpriority : t.priority.asNumber.asNumber = t.priority.asNumber := by
    cases h : t.priority.isZero with
    | true => rw [Number.Binary64.asNumber_of_isZero h]; rfl
    | false => rw [Number.Binary64.asNumber_of_not_isZero h, Number.Binary64.asNumber_of_not_isZero h]
  rw [asNumbers, asNumbers, hpriority]

theorem Topology.asNumbers_asNumbers (t : Topology) : t.asNumbers.asNumbers = t.asNumbers := by
  have hdict : (t.metadataTemplates.map MetadataTemplate.asNumbers).map MetadataTemplate.asNumbers =
      t.metadataTemplates.map MetadataTemplate.asNumbers := by
    refine Dict.ext_get? fun key => ?_
    rw [Dict.get?_map, Dict.get?_map, Option.map_map]
    exact Option.map_congr fun m _ => m.asNumbers_asNumbers
  rw [asNumbers, asNumbers, hdict]

theorem Document.asNumbers_asNumbers (d : Document) : d.asNumbers.asNumbers = d.asNumbers := by
  rw [asNumbers, asNumbers, Topology.asNumbers_asNumbers]

/-! ## Reports

The writer of a record is first put as its fields with what each has, whether written or left out; then each
field reads back by itself. -/

theorem readsAs_instant (t : Instant) : ReadsAs readInstant? (instantJson t) t := by
  obtain ⟨hwritable, hread⟩ := ReadsAs.text t.text
  refine ⟨hwritable, ?_⟩
  rw [readInstant?, instantJson, hread, Option.bind_some, Instant.read?_text]

theorem readsAs_int32 (i : Int32) : ReadsAs readInt32? (.integer i.toInt) i := by
  obtain ⟨hwritable, hread⟩ := ReadsAs.integer (Int32.le_toInt i) (Int32.toInt_le i)
  refine ⟨hwritable, ?_⟩
  rw [readInt32?]
  refine (congrArg (Option.map Int32.ofInt) hread).trans ?_
  rw [Option.map_some, Int32.ofInt_toInt]

theorem readsAs_uint32 (i : UInt32) : ReadsAs readUInt32? (.integer i.toNat) i := by
  have hi := i.toNat_lt
  obtain ⟨hwritable, hread⟩ :=
    ReadsAs.integer (show (0 : Int) ≤ i.toNat by omega) (show (i.toNat : Int) ≤ 4294967295 by omega)
  refine ⟨hwritable, ?_⟩
  rw [readUInt32?, hread, Option.map_some, Int.toNat_natCast, UInt32.ofNat_toNat]

theorem Entry.readsAs (e : Entry) : ReadsAs ofJson? e.toJson e := by
  have htimestamp := (readsAs_instant e.timestamp).required
  have hvalue := (ReadsAs.text e.value).required
  have heq : e.toJson = .ofFields (present
      [("timestamp", some (instantJson e.timestamp)), ("value", some (.text e.value))]) := rfl
  rw [heq]
  refine .record ["timestamp", "value"] (by decide) rfl
    (htimestamp.cons (hvalue.cons fieldsWritable_nil)) fun j hj => ?_
  simp [ofJson?, hj, htimestamp.eq, hvalue.eq]

/-- The text of an entry with a timestamp as somebody else may have written it. -/
def Entry.stamped (z : Stamp) (value : String) : List UInt8 :=
  (Json.ofFields [("timestamp", .text z.text), ("value", .text value)]).render

theorem readsAs_dead (b : Bool) : ReadsAs readDead? (.ofFields [("dead", .bool b)]) b := by
  have hdead := (ReadsAs.bool b).required
  have heq : Json.ofFields [("dead", .bool b)] = .ofFields (present [("dead", some (.bool b))]) := rfl
  rw [heq]
  refine .record ["dead"] (by decide) rfl (hdead.cons fieldsWritable_nil) fun j hj => ?_
  simp [readDead?, hj, hdead.eq]

theorem ControlEntry.readsAs (e : ControlEntry) : ReadsAs ofJson? e.toJson e := by
  have htimestamp := (readsAs_instant e.timestamp).required
  have hvalue := (readsAs_dead e.dead).required
  have heq : e.toJson = .ofFields (present
      [("timestamp", some (instantJson e.timestamp)),
        ("value", some (.ofFields [("dead", .bool e.dead)]))]) := rfl
  rw [heq]
  refine .record ["timestamp", "value"] (by decide) rfl
    (htimestamp.cons (hvalue.cons fieldsWritable_nil)) fun j hj => ?_
  simp [ofJson?, hj, htimestamp.eq, hvalue.eq]

theorem Node.readsAs (n : Node) : ReadsAs ofJson? n.toJson n := by
  have hcontrols := FieldReadsAs.dict (ReadsAs.dict fun e (_ : e ∈ n.controls.values) => e.readsAs)
  have hlatest := FieldReadsAs.dict (ReadsAs.dict fun e (_ : e ∈ n.latest.values) => e.readsAs)
  have heq : n.toJson = .ofFields (present
      [("latestControls", given n.controls.isEmpty (.ofDict ControlEntry.toJson n.controls)),
        ("latest", given n.latest.isEmpty (.ofDict Entry.toJson n.latest))]) := by
    simp only [toJson, Json.present_given, Json.present_nil, List.append_nil]
  rw [heq]
  refine .record ["latestControls", "latest"] (by decide) rfl
    (hcontrols.cons (hlatest.cons fieldsWritable_nil)) fun j hj => ?_
  simp [ofJson?, hj, hcontrols.eq, hlatest.eq]

theorem Advertised.readsAs (c : Advertised) : ReadsAs ofJson? c.toJson c := by
  have hid := (ReadsAs.text c.id).required
  have hhuman := (ReadsAs.text c.human).required
  have hicon := (ReadsAs.text c.icon).required
  have hrank := (readsAs_int32 c.rank).required
  have heq : c.toJson = .ofFields (present
      [("id", some (.text c.id)), ("human", some (.text c.human)), ("icon", some (.text c.icon)),
        ("rank", some (.integer c.rank.toInt))]) := rfl
  rw [heq]
  refine .record ["id", "human", "icon", "rank"] (by decide) rfl
    (hid.cons (hhuman.cons (hicon.cons (hrank.cons fieldsWritable_nil)))) fun j hj => ?_
  simp [ofJson?, hj, hid.eq, hhuman.eq, hicon.eq, hrank.eq]

theorem readsAs_priority {p : Binary64} (hp : p.isZero ∨ p.ReadsBack) :
    FieldReadsAs (Json.withDefault (.zero false) Json.double?)
      (given p.isZero (.number (.ofDouble p))) p.asNumber := by
  refine .withDefault Number.Binary64.asNumber_of_isZero fun h => ?_
  rw [Number.Binary64.asNumber_of_not_isZero h]
  exact ReadsAs.double (hp.resolve_left (by rw [h]; decide))

theorem MetadataTemplate.readsAs {t : MetadataTemplate} (ht : t.priority.isZero ∨ t.priority.ReadsBack) :
    ReadsAs ofJson? t.toJson t.asNumbers := by
  have hid := (ReadsAs.text t.id).required
  have hlabel := FieldReadsAs.text t.label
  have htruncate : FieldReadsAs (Json.withDefault 0 readUInt32?)
      (given (t.truncate = 0) (.integer t.truncate.toNat)) t.truncate :=
    .withDefault of_decide_eq_true fun _ => readsAs_uint32 t.truncate
  have hdataType := FieldReadsAs.text t.dataType
  have hpriority := readsAs_priority ht
  have hsource := FieldReadsAs.text t.source
  have heq : t.toJson = .ofFields (present
      [("id", some (.text t.id)), ("label", given (t.label = "") (.text t.label)),
        ("truncate", given (t.truncate = 0) (.integer t.truncate.toNat)),
        ("dataType", given (t.dataType = "") (.text t.dataType)),
        ("priority", given t.priority.isZero (.number (.ofDouble t.priority))),
        ("from", given (t.source = "") (.text t.source))]) := by
    simp only [toJson, Json.present_some, Json.present_given, Json.present_nil, List.append_nil,
      List.cons_append, List.append_assoc]
  rw [heq]
  refine .record ["id", "label", "truncate", "dataType", "priority", "from"] (by decide) rfl
    (hid.cons (hlabel.cons (htruncate.cons (hdataType.cons (hpriority.cons
      (hsource.cons fieldsWritable_nil)))))) fun j hj => ?_
  simp [ofJson?, hj, hid.eq, hlabel.eq, htruncate.eq, hdataType.eq, hpriority.eq, hsource.eq, asNumbers]

theorem TableTemplate.readsAs (t : TableTemplate) : ReadsAs ofJson? t.toJson t := by
  have hid := (ReadsAs.text t.id).required
  have hlabel := (ReadsAs.text t.label).required
  have hkeyStart := (ReadsAs.text t.keyStart).required
  have heq : t.toJson = .ofFields (present
      [("id", some (.text t.id)), ("label", some (.text t.label)),
        ("prefix", some (.text t.keyStart))]) := rfl
  rw [heq]
  refine .record ["id", "label", "prefix"] (by decide) rfl
    (hid.cons (hlabel.cons (hkeyStart.cons fieldsWritable_nil))) fun j hj => ?_
  simp [ofJson?, hj, hid.eq, hlabel.eq, hkeyStart.eq]

theorem Topology.readsAs {t : Topology} (ht : ∀ p ∈ t.priorities, p.isZero ∨ p.ReadsBack) :
    ReadsAs ofJson? t.toJson t.asNumbers := by
  have hnodes := (ReadsAs.dict fun n (_ : n ∈ t.nodes.values) => n.readsAs).required
  have hcontrols := (ReadsAs.dict fun c (_ : c ∈ t.controls.values) => c.readsAs).required
  have hmetadata := FieldReadsAs.dict (ReadsAs.mapDict fun m (hm : m ∈ t.metadataTemplates.values) =>
    MetadataTemplate.readsAs (ht m.priority (List.mem_map.mpr ⟨m, hm, rfl⟩)))
  have htables := FieldReadsAs.dict
    (ReadsAs.dict fun m (_ : m ∈ t.tableTemplates.values) => TableTemplate.readsAs m)
  have hempty : (t.metadataTemplates.map MetadataTemplate.asNumbers).isEmpty =
      t.metadataTemplates.isEmpty := List.isEmpty_map
  rw [hempty] at hmetadata
  have heq : t.toJson = .ofFields (present
      [("nodes", some (.ofDict Node.toJson t.nodes)),
        ("controls", some (.ofDict Advertised.toJson t.controls)),
        ("metadata_templates",
          given t.metadataTemplates.isEmpty (.ofDict MetadataTemplate.toJson t.metadataTemplates)),
        ("table_templates",
          given t.tableTemplates.isEmpty (.ofDict TableTemplate.toJson t.tableTemplates))]) := by
    simp only [toJson, Json.present_some, Json.present_given, Json.present_nil, List.append_nil,
      List.cons_append]
  rw [heq]
  refine .record ["nodes", "controls", "metadata_templates", "table_templates"] (by decide) rfl
    (hnodes.cons (hcontrols.cons (hmetadata.cons (htables.cons fieldsWritable_nil)))) fun j hj => ?_
  simp [ofJson?, hj, hnodes.eq, hcontrols.eq, hmetadata.eq, htables.eq, asNumbers]

theorem Plugin.readsAs (p : Plugin) : ReadsAs ofJson? p.toJson p := by
  have hid := (ReadsAs.text p.id).required
  have hlabel := (ReadsAs.text p.label).required
  have hdescription := FieldReadsAs.text p.description
  have hinterfaces := (ReadsAs.list fun s (_ : s ∈ p.interfaces) => ReadsAs.text s).required
  have hapiVersion := FieldReadsAs.text p.apiVersion
  have heq : p.toJson = .ofFields (present
      [("id", some (.text p.id)), ("label", some (.text p.label)),
        ("description", given (p.description = "") (.text p.description)),
        ("interfaces", some (.array (p.interfaces.map Json.text))),
        ("api_version", given (p.apiVersion = "") (.text p.apiVersion))]) := by
    simp only [toJson, Json.present_some, Json.present_given, Json.present_nil, List.append_nil,
      List.cons_append]
  rw [heq]
  refine .record ["id", "label", "description", "interfaces", "api_version"] (by decide) rfl
    (hid.cons (hlabel.cons (hdescription.cons (hinterfaces.cons
      (hapiVersion.cons fieldsWritable_nil))))) fun j hj => ?_
  simp [ofJson?, hj, hid.eq, hlabel.eq, hdescription.eq, hinterfaces.eq, hapiVersion.eq]

theorem Document.readsAs {d : Document} (hd : ∀ p ∈ d.container.priorities, p.isZero ∨ p.ReadsBack) :
    ReadsAs ofJson? d.toJson d.asNumbers := by
  have hcontainer := (Topology.readsAs hd).required
  have hplugins := (ReadsAs.list fun p (_ : p ∈ d.plugins) => p.readsAs).required
  have heq : d.toJson = .ofFields (present
      [("Container", some d.container.toJson),
        ("Plugins", some (.array (d.plugins.map Plugin.toJson)))]) := rfl
  rw [heq]
  refine .record ["Container", "Plugins"] (by decide) rfl
    (hcontainer.cons (hplugins.cons fieldsWritable_nil)) fun j hj => ?_
  simp [ofJson?, hj, hcontainer.eq, hplugins.eq, asNumbers]

end Report

/-! ## Requests -/

theorem ControlRequest.readsAs (r : ControlRequest) : ReadsAs ofJson? r.toJson r := by
  have happId := (ReadsAs.text r.appId).withDefault ""
  have hnodeId := (ReadsAs.text r.nodeId).required
  have hcontrol := (ReadsAs.text r.control).required
  have heq : r.toJson = .ofFields (present
      [("AppID", some (.text r.appId)), ("NodeID", some (.text r.nodeId)),
        ("Control", some (.text r.control))]) := rfl
  rw [heq]
  refine .record ["AppID", "NodeID", "Control"] (by decide) rfl
    (happId.cons (hnodeId.cons (hcontrol.cons fieldsWritable_nil))) fun j hj => ?_
  simp [ofJson?, hj, happId.eq, hnodeId.eq, hcontrol.eq]

theorem ControlResponse.readsAs (r : ControlResponse) : ReadsAs ofJson? r.toJson r := by
  have herror : FieldReadsAs (Json.withDefault none (Json.nullable Json.string?)) (r.error.map .text)
      r.error := by
    cases r.error with
    | none => exact ⟨nofun, rfl⟩
    | some e =>
        obtain ⟨hwritable, hread⟩ := ReadsAs.text e
        refine ⟨fun _ hj => Option.some.inj hj ▸ hwritable, ?_⟩
        show (Json.text e).string?.map some = _
        rw [hread]
        rfl
  have heq : r.toJson = .ofFields (present [("error", r.error.map .text)]) := by
    obtain ⟨error⟩ := r
    cases error <;> rfl
  rw [heq]
  refine .record ["error"] (by decide) rfl (herror.cons fieldsWritable_nil) fun j hj => ?_
  simp [ofJson?, hj, herror.eq]

/-! ## Texts -/

/-- The kinds of values that have a text of their own. -/
inductive Wire where
  | report
  | topology
  | node
  | control
  | metadataTemplate
  | tableTemplate
  | plugin
  | stringEntry
  | request
  | response

namespace Wire

open Report

def Value : Wire → Type
  | report => Document
  | topology => Topology
  | node => Node
  | control => Advertised
  | metadataTemplate => MetadataTemplate
  | tableTemplate => TableTemplate
  | plugin => Plugin
  | stringEntry => Report.Entry
  | request => ControlRequest
  | response => ControlResponse

def toJson : (kind : Wire) → kind.Value → Json
  | report => Document.toJson
  | topology => Topology.toJson
  | node => Node.toJson
  | control => Advertised.toJson
  | metadataTemplate => MetadataTemplate.toJson
  | tableTemplate => TableTemplate.toJson
  | plugin => Plugin.toJson
  | stringEntry => Report.Entry.toJson
  | request => ControlRequest.toJson
  | response => ControlResponse.toJson

def ofJson? : (kind : Wire) → Json → Option kind.Value
  | report => Document.ofJson?
  | topology => Topology.ofJson?
  | node => Node.ofJson?
  | control => Advertised.ofJson?
  | metadataTemplate => MetadataTemplate.ofJson?
  | tableTemplate => TableTemplate.ofJson?
  | plugin => Plugin.ofJson?
  | stringEntry => Report.Entry.ofJson?
  | request => ControlRequest.ofJson?
  | response => ControlResponse.ofJson?

/-- The priorities in a value, wherever they stand. -/
def priorities : (kind : Wire) → kind.Value → List Binary64
  | report, d => d.container.priorities
  | topology, t => t.priorities
  | metadataTemplate, t => [t.priority]
  | _, _ => []

/-- A value with its priorities as numbers. -/
def asNumbers : (kind : Wire) → kind.Value → kind.Value
  | report, d => Document.asNumbers d
  | topology, t => Topology.asNumbers t
  | metadataTemplate, t => MetadataTemplate.asNumbers t
  | _, v => v

def write (kind : Wire) (v : kind.Value) : List UInt8 := (kind.toJson v).render

def read? (kind : Wire) (text : List UInt8) : Option kind.Value := (Json.parse? text).bind kind.ofJson?

theorem readsAs {kind : Wire} {v : kind.Value} (hv : ∀ p ∈ kind.priorities v, p.isZero ∨ p.ReadsBack) :
    ReadsAs kind.ofJson? (kind.toJson v) (kind.asNumbers v) := by
  cases kind with
  | report => exact Document.readsAs hv
  | topology => exact Topology.readsAs hv
  | node => exact Node.readsAs v
  | control => exact Advertised.readsAs v
  | metadataTemplate => exact MetadataTemplate.readsAs (hv _ List.mem_cons_self)
  | tableTemplate => exact TableTemplate.readsAs v
  | plugin => exact Plugin.readsAs v
  | stringEntry => exact Report.Entry.readsAs v
  | request => exact ControlRequest.readsAs v
  | response => exact ControlResponse.readsAs v

theorem toJson_asNumbers (kind : Wire) (v : kind.Value) : kind.toJson (kind.asNumbers v) = kind.toJson v := by
  cases kind with
  | report => exact Document.toJson_asNumbers v
  | topology => exact Topology.toJson_asNumbers v
  | metadataTemplate => exact MetadataTemplate.toJson_asNumbers v
  | _ => rfl

theorem asNumbers_asNumbers (kind : Wire) (v : kind.Value) :
    kind.asNumbers (kind.asNumbers v) = kind.asNumbers v := by
  cases kind with
  | report => exact Document.asNumbers_asNumbers v
  | topology => exact Topology.asNumbers_asNumbers v
  | metadataTemplate => exact MetadataTemplate.asNumbers_asNumbers v
  | _ => rfl

theorem read?_write {kind : Wire} {v : kind.Value}
    (hv : ∀ p ∈ kind.priorities v, p.isZero ∨ p.ReadsBack) :
    kind.read? (kind.write v) = some (kind.asNumbers v) := by
  obtain ⟨hwritable, hread⟩ := readsAs hv
  rw [read?, write, Json.parse?_render hwritable, Option.bind_some, hread]

end Wire

end TrafficShaping
