import TrafficShaping.Proofs.ControlAnswers
import TrafficShaping.Proofs.ReportNodes
import TrafficShaping.Server.Router

/-!
# What a report shows after any history

A report shows two values for every container that is running or stopped. Without a metrics source they come
from the cache alone, by way of the namespace that the container's process is in as the report is made. So
what a container shows depends on its own life only through its process: it shows what was last asked for in
its namespace, by whichever container, and one that starts in a namespace shows at once what was asked for
before it was there.
-/

namespace TrafficShaping

namespace Report

/-- The key under which a node shows the value of a dimension. -/
def dimensionKey : Dimension → String
  | .latency => valueKey latencyKey
  | .packetLoss => valueKey packetLossKey

/-- The value of a dimension that a report shows for a container. -/
def Document.shown? (r : Document) (id : String) (d : Dimension) : Option String := do
  let node ← r.container.nodes.get? (NodeId.ofContainer id)
  let entry ← node.latest.get? (dimensionKey d)
  return entry.value

namespace Sources

/-- The values of a node: one for each dimension, and the peer if there is one. -/
theorem get?_latest_eq_some_iff {src : Sources} {c : Container} {key : String} {entry : Entry} :
    (src.latest c).get? key = some entry ↔
      (∃ d, key = dimensionKey d ∧ entry = ⟨src.timestamp, ((src.shape c).get d).text⟩) ∨
        key = valueKey peerKey ∧ (src.peer c).isSet ∧ entry = ⟨src.timestamp, (src.peer c).text⟩ := by
  have hdimensions : (∃ d, key = dimensionKey d ∧
      entry = ⟨src.timestamp, ((src.shape c).get d).text⟩) ↔
      key = valueKey latencyKey ∧ entry = ⟨src.timestamp, (src.shape c).latency.text⟩ ∨
        key = valueKey packetLossKey ∧ entry = ⟨src.timestamp, (src.shape c).packetLoss.text⟩ := by
    constructor
    · rintro ⟨d, h⟩
      cases d with
      | latency => exact .inl h
      | packetLoss => exact .inr h
    · rintro (h | h)
      · exact ⟨.latency, h⟩
      · exact ⟨.packetLoss, h⟩
  rw [hdimensions, latest, Dict.get?_ofList_eq_some_iff]
  · cases (src.peer c).isSet <;> simp [or_assoc]
  · split
    · show [valueKey latencyKey, valueKey packetLossKey, valueKey peerKey].Nodup
      decide
    · show [valueKey latencyKey, valueKey packetLossKey].Nodup
      decide

theorem get?_latest (src : Sources) (c : Container) (d : Dimension) :
    (src.latest c).get? (dimensionKey d) =
      some ⟨src.timestamp, ((src.shape c).get d).text⟩ :=
  get?_latest_eq_some_iff.mpr (.inl ⟨d, rfl, rfl⟩)

theorem get?_nodes_ofContainer {s : Store} (h : s.Keyed) (src : Sources) (id : String) :
    (src.nodes s.snapshot).get? (NodeId.ofContainer id) =
      ((s.lookup id).filter (·.state.isReported)).map src.node := by
  refine Option.ext fun node => ?_
  rw [src.get?_nodes_snapshot h, Option.map_eq_some_iff]
  constructor
  · rintro ⟨c, hlookup, hreported, hid, hnode⟩
    obtain rfl := NodeId.ofContainer_injective hid
    exact ⟨c, Option.filter_eq_some_iff.mpr ⟨hlookup, hreported⟩, hnode⟩
  · rintro ⟨c, hc, hnode⟩
    obtain ⟨hlookup, hreported⟩ := Option.filter_eq_some_iff.mp hc
    have hid : c.id = id := h id c hlookup
    exact ⟨c, hid.symm ▸ hlookup, hreported, by rw [hid], hnode⟩

theorem shown?_assemble {s : Store} (h : s.Keyed) (src : Sources) (id : String) (d : Dimension) :
    (src.assemble s.snapshot).shown? id d =
      ((s.lookup id).filter (·.state.isReported)).map fun c => ((src.shape c).get d).text := by
  rw [Document.shown?, assemble, src.get?_nodes_ofContainer h]
  cases (s.lookup id).filter (·.state.isReported) with
  | none => rfl
  | some c =>
      show ((src.latest c).get? (dimensionKey d)).bind _ = _
      rw [src.get?_latest]
      rfl

end Sources

end Report

/-- Samples come from the source. -/
theorem MetricsSource.exists_of_get?_enrich {source : MetricsSource} {containers : List Container}
    {id : String} {sample : Sample} (h : (source.enrich containers).get? id = some sample) :
    ∃ c, source.sample? c = some sample := by
  rw [MetricsSource.enrich_eq] at h
  obtain ⟨c, -, hc⟩ := List.mem_filterMap.mp (Dict.mem_of_get?_ofList h)
  obtain ⟨_, hsample, heq⟩ := Option.map_eq_some_iff.mp hc
  obtain ⟨-, rfl⟩ := Prod.mk.inj heq
  exact ⟨c, hsample⟩

/-- A source that knows nothing makes no difference to what a container shows. -/
theorem MetricsSource.sampledShape_enrich_disabled (containers : List Container) (id : String) :
    (((disabled.enrich containers).get? id).map Report.sampledShape).getD {} = {} := by
  cases hsample : (disabled.enrich containers).get? id with
  | none => rfl
  | some sample =>
      obtain ⟨c, hc⟩ := exists_of_get?_enrich hsample
      obtain rfl := Option.some.inj hc
      rfl

/-! ## Reports in a situation -/

/-- The containers that a report asks the metrics source about. -/
def Store.running (s : Store) : List Container := s.snapshot.filter (·.state.isRunning)

variable {σ : Type}

/-- What a report is assembled from when samples have been found. -/
def Shaper.sources (s : Shaper σ) (samples : Dict Sample) (now : Instant) (c : Cache) (w : σ) :
    Report.Sources where
  applied? := Report.appliedIn c fun pid => (s.host.resolve pid w).1
  samples := samples
  timestamp := now

/-- What is said of bodies that are no requests has no part in a report. -/
theorem Service.report_informant (s : Shaper σ) (source : MetricsSource) (unreadable : List UInt8 → String)
    (store : Store) (now : Instant) (c : Cache) (w : σ) :
    report ⟨s, source.informant, unreadable⟩ store now c w =
      ((s.sources (source.enrich store.running) now c w).assemble store.snapshot, w) := by
  rw [report]
  simp only [source.enrich_informant]
  rfl

/-- The report that is answered in a situation when there is no metrics source. -/
def Shaper.report (s : Shaper σ) (x : Situation σ) (now : Instant) : Report.Document :=
  (Service.report ⟨s, MetricsSource.disabled.informant, fun _ => ""⟩ x.store now x.cache x.host).1

namespace Shaper

variable {s : Shaper σ} {place : Pid → Option Identity}

/-- A running container shows what is read of the namespace of its process, and a stopped one nothing. -/
theorem shown?_report (hplace : s.host.Places place) {x : Situation σ} (hx : x.store.Keyed)
    (now : Instant) (id : String) (d : Dimension) :
    (s.report x now).shown? id d =
      ((x.store.lookup id).filter (·.state.isReported)).map fun c =>
        if c.state.isRunning then
          ((place c.pid).elim Param.unset fun n => (x.cache.read n).get d).text
        else Param.unsetText := by
  rw [report, Service.report_informant, Report.Sources.shown?_assemble hx]
  refine congrArg (Option.map · _) (funext fun c => ?_)
  simp only [Report.Sources.shape, Shaper.sources, MetricsSource.sampledShape_enrich_disabled]
  split
  · show ((((s.host.resolve c.pid x.host).1.toOption.bind x.cache.get?).getD {}).get d).text = _
    rw [hplace c.pid x.host]
    cases place c.pid with
    | none => cases d <;> rfl
    | some n => rfl
  · cases d <;> rfl

/-- What a report shows of a dimension depends only on the containers and on what is read of it. -/
theorem shown?_report_congr (hplace : s.host.Places place) {x y : Situation σ} (hx : x.store.Keyed)
    (hstore : y.store = x.store) {d : Dimension}
    (hread : ∀ n, (y.cache.read n).get d = (x.cache.read n).get d) (now later : Instant)
    (id : String) : (s.report y later).shown? id d = (s.report x now).shown? id d := by
  have hy : y.store.Keyed := hstore ▸ hx
  rw [shown?_report hplace hx, shown?_report hplace hy, hstore]
  simp only [hread]

/-- A request that fails leaves every shown value as it was. -/
theorem shown?_meet_of_error (hplace : s.host.Places place) {x : Situation σ} (hx : x.store.Keyed)
    {nodeId controlId : String} {e : DispatchError} (h : s.outcome x nodeId controlId = .error e)
    (now later : Instant) (id : String) (d : Dimension) :
    (s.report (s.meet x (.request nodeId controlId)) later).shown? id d =
      (s.report x now).shown? id d := by
  have hanswered : s.answered? x (.request nodeId controlId) = none := by
    rw [answered?, h]
    cases x.store.resolve nodeId controlId <;> rfl
  have hstore : (s.meet x (.request nodeId controlId)).store = x.store := rfl
  refine shown?_report_congr hplace hx hstore (fun n => ?_) now later id
  rw [read_meet hplace, hanswered]

/-- A preset of one dimension leaves every shown value of the other one as it was. -/
theorem shown?_meet_of_preset (hplace : s.host.Places place) {x : Situation σ} (hx : x.store.Keyed)
    {nodeId controlId : String} {k : Control} (h : s.outcome x nodeId controlId = .ok k)
    {d : Dimension} {value : String} (hk : k.preset? = some (d, value)) (now later : Instant)
    (id : String) : (s.report (s.meet x (.request nodeId controlId)) later).shown? id d.other =
      (s.report x now).shown? id d.other := by
  have hreshape : ∀ shape : Shape, (k.reshape shape).get d.other = shape.get d.other := by
    intro shape
    rw [Control.reshape, hk]
    exact shape.get_set_other d _
  have hstore : (s.meet x (.request nodeId controlId)).store = x.store := rfl
  refine shown?_report_congr hplace hx hstore (fun n => ?_) now later id
  rw [read_meet hplace, answered?, h]
  cases x.store.resolve nodeId controlId with
  | error e => rfl
  | ok r =>
      show (if place r.pid = some n then k.reshape (x.cache.read n) else x.cache.read n).get _ = _
      split
      · exact hreshape _
      · rfl

/-- A container shows nothing unless it is running and its process has a place. -/
theorem shown?_report_of_unplaced (hplace : s.host.Places place) {x : Situation σ}
    (hx : x.store.Keyed) {id : String} {c : Container} (hlookup : x.store.lookup id = some c)
    (hc : c.state = .stopped ∨ c.state = .running ∧ place c.pid = none) (now : Instant)
    (d : Dimension) : (s.report x now).shown? id d = some Param.unsetText := by
  rw [shown?_report hplace hx, hlookup]
  rcases hc with hstate | ⟨hstate, hnone⟩
  · rw [Option.filter_some_pos (by rw [hstate]; rfl), Option.map_some, hstate]
    rfl
  · rw [Option.filter_some_pos (by rw [hstate]; rfl), Option.map_some, hstate, hnone]
    rfl

/-- A running container shows the last preset since the last clear in the namespace of its process. -/
theorem shown?_after_of_running (hplace : s.host.Places place) (hs : List Happening) (w : σ)
    {id : String} {c : Container} {n : Identity}
    (hlookup : (s.after hs { host := w }).store.lookup id = some c) (hstate : c.state = .running)
    (hn : place c.pid = some n) (now : Instant) (d : Dimension) :
    (s.report (s.after hs { host := w }) now).shown? id d =
      some (lastPreset place n d (s.answers hs { host := w })) := by
  rw [shown?_report hplace (keyed_after Store.keyed_empty hs), hlookup,
    Option.filter_some_pos (by rw [hstate]; rfl), Option.map_some, hstate, hn,
    ← text_read_after hplace hs w n d]
  rfl

end Shaper

/-- What the reports after a history show, and how one more request changes it. -/
theorem shown_after_history (s : Shaper σ) {place : Pid → Option Identity}
    (hplace : s.host.Places place) (hs : List Happening) (w : σ) (now later : Instant) :
    let x := s.after hs { host := w }
    let answers := s.answers hs { host := w }
    (∀ id c n, x.store.lookup id = some c → c.state = .running → place c.pid = some n →
        ∀ d, (s.report x now).shown? id d = some (lastPreset place n d answers)) ∧
      (∀ id c, x.store.lookup id = some c →
        c.state = .stopped ∨ c.state = .running ∧ place c.pid = none →
        ∀ d, (s.report x now).shown? id d = some Param.unsetText) ∧
      (∀ id id' c c' n, x.store.lookup id = some c → x.store.lookup id' = some c' →
        c.state = .running → c'.state = .running → place c.pid = some n → place c'.pid = some n →
        ∀ d, (s.report x now).shown? id d = (s.report x now).shown? id' d) ∧
      ∀ nodeId controlId,
        let y := s.meet x (.request nodeId controlId)
        (∀ e, s.outcome x nodeId controlId = .error e →
          ∀ id d, (s.report y later).shown? id d = (s.report x now).shown? id d) ∧
        ∀ k d value, s.outcome x nodeId controlId = .ok k → k.preset? = some (d, value) →
          ∀ id, (s.report y later).shown? id d.other = (s.report x now).shown? id d.other := by
  intro x answers
  have hx : x.store.Keyed := Shaper.keyed_after Store.keyed_empty hs
  refine ⟨?_, ?_, ?_, fun nodeId controlId => ⟨?_, ?_⟩⟩
  · intro id c n hlookup hstate hn d
    exact Shaper.shown?_after_of_running hplace hs w hlookup hstate hn now d
  · intro id c hlookup hc d
    exact Shaper.shown?_report_of_unplaced hplace hx hlookup hc now d
  · intro id id' c c' n hlookup hlookup' hstate hstate' hn hn' d
    rw [Shaper.shown?_after_of_running hplace hs w hlookup hstate hn now d,
      Shaper.shown?_after_of_running hplace hs w hlookup' hstate' hn' now d]
  · intro e he id d
    exact Shaper.shown?_meet_of_error hplace hx he now later id d
  · intro k d value houtcome hk id
    exact Shaper.shown?_meet_of_preset hplace hx houtcome hk now later id

/-- Of two containers in one namespace, the one shows what was asked for on the other. -/
theorem shown_of_shared_namespace :
    let n : Identity := ⟨"4026531840", by decide⟩
    let s : Shaper Unit := { host := {
      resolve := fun _ w => (.ok n, w)
      run := fun _ _ w => (.ok (), w) } }
    let now : Instant := ⟨⟨1970, 1, 1, by decide⟩, ⟨0, 0, 0, 0, by decide⟩⟩
    let x := s.after [
      .event (.started "abc" none 7), .event (.started "def" none 8),
      .request (NodeId.ofContainer "abc") Control.slow.id,
      .request (NodeId.ofContainer "def") Control.packetDropLow.id,
      .request (NodeId.ofContainer "abc") Control.fast.id] { host := () }
    s.host.Places (fun _ => some n) ∧ (s.report x now).shown? "def" .latency = some "500ms" := by
  intro n s now x
  have hplace : s.host.Places (fun _ => some n) := fun _ _ => rfl
  have hlookup : x.store.lookup "def" = some { id := "def", pid := 8, state := .running } := by
    decide
  refine ⟨hplace, ?_⟩
  rw [(shown_after_history s hplace _ () now now).1 "def" _ n hlookup rfl rfl .latency]
  decide

end TrafficShaping
