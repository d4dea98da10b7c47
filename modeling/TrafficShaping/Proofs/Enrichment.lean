import TrafficShaping.Proofs.ShownValues
import TrafficShaping.Proofs.StoreHistory
import TrafficShaping.Proofs.WireRoundTrip

/-!
# Reports under outages of the metrics source

A report asks the metrics source about every running container, and whatever comes back, or does not, the
report is answered. A query that fails or gets no answer leaves its container without a sample, and a node
cannot tell a sample that is missing from one in which nothing is set: what is applied comes before either,
neither has a value for a dimension, and neither names a peer. So a report made during an outage is the report
of a source that has nothing to say about the containers concerned, and about these only.

That a node depends on the query for its own container alone rests on the ids. Samples are filed by id, so that
two containers with one id would share a sample; but a store has a single record under an id.

Whom a service asks is seen when its metrics source writes down, beside the world, every container that it is
asked about. That changes nothing else about an answer, and what is written down for a report are the running
containers, each of them once.

The body of an answer is the text of the report, and reads as that report. For the priorities in it this is a
matter of two numbers, which are the ones that their decimals are read as.
-/

namespace TrafficShaping

/-! ## The sample of a container -/

namespace MetricsSource

variable {containers : List Container}

/-- The source that says that nothing is set wherever `source` fails or gives no answer in time. -/
def orUnset (source : MetricsSource) : MetricsSource := fun c =>
  match source c with
  | some (.ok s) => some (.ok s)
  | some (.error _) | none => some (.ok {})

theorem sample?_orUnset (source : MetricsSource) (c : Container) :
    source.orUnset.sample? c = some ((source.sample? c).getD {}) := by
  rw [sample?, orUnset, sample?]
  rcases source c with _ | e | s <;> rfl

theorem get?_enrich (source : MetricsSource) (hids : (containers.map (·.id)).Nodup) {c : Container}
    (hc : c ∈ containers) : (source.enrich containers).get? c.id = source.sample? c := by
  have hkeys : ((containers.filterMap fun c => (source.sample? c).map fun s => (c.id, s)).map
      (·.1)).Nodup := by
    rw [List.Nodup, List.pairwise_map] at hids ⊢
    refine hids.filterMap _ ?_
    rintro a b hne _ ha _ hb
    obtain ⟨_, -, rfl⟩ := Option.map_eq_some_iff.mp ha
    obtain ⟨_, -, rfl⟩ := Option.map_eq_some_iff.mp hb
    exact hne
  refine Option.ext fun s => ?_
  rw [enrich_eq, Dict.get?_ofList_eq_some_iff hkeys, List.mem_filterMap]
  constructor
  · rintro ⟨other, hother, h⟩
    obtain ⟨_, hs, heq⟩ := Option.map_eq_some_iff.mp h
    obtain ⟨hid, rfl⟩ := Prod.mk.inj heq
    obtain rfl : other = c := List.inj_on_of_nodup_map hids hother hc hid
    exact hs
  · intro hs
    exact ⟨c, hc, by rw [hs]; rfl⟩

end MetricsSource

namespace Store

theorem mem_running_iff {s : Store} (h : s.Keyed) {c : Container} :
    c ∈ s.running ↔ s.lookup c.id = some c ∧ c.state = .running := by
  rw [running, List.mem_filter, mem_snapshot_iff h, LifeState.isRunning_iff]

theorem nodup_ids_running {s : Store} (h : s.Keyed) : (s.running.map (·.id)).Nodup :=
  (nodup_ids_snapshot h).sublist (List.filter_sublist.map _)

end Store

/-! ## Nodes without a sample -/

namespace Report.Sources

variable {src src' : Sources} {c : Container}

/-- A container without a sample shows what it shows with one in which nothing is set. -/
theorem shape_eq_getD (src : Sources) (c : Container) : src.shape c =
    if c.state.isRunning then
      (src.applied? c.pid).getD (sampledShape ((src.samples.get? c.id).getD {}))
    else {} := by
  rw [shape]
  cases src.samples.get? c.id <;> rfl

theorem peer_eq_getD (src : Sources) (c : Container) : src.peer c =
    if c.state.isRunning then ((src.samples.get? c.id).getD {}).label else .unset := by
  rw [peer]
  cases src.samples.get? c.id <;> rfl

theorem node_congr_getD (happlied : src.applied? = src'.applied?)
    (hsample : c.state.isRunning →
      (src.samples.get? c.id).getD {} = (src'.samples.get? c.id).getD {})
    (htime : src.timestamp = src'.timestamp) : src.node c = src'.node c := by
  have hshape : src.shape c = src'.shape c := by
    rw [shape_eq_getD, shape_eq_getD, happlied]
    split
    · next hrunning => rw [hsample hrunning]
    · rfl
  have hpeer : src.peer c = src'.peer c := by
    rw [peer_eq_getD, peer_eq_getD]
    split
    · next hrunning => rw [hsample hrunning]
    · rfl
  rw [node, node, controls, controls, latest, latest, hshape, hpeer, htime]

end Report.Sources

/-! ## Reports from two sources -/

variable {σ : Type}

namespace Service

variable {shaper : Shaper σ} {source source' : MetricsSource} {unreadable : List UInt8 → String}
  {store : Store} {now : Instant} {c : Cache} {w : σ}

theorem node_congr (h : store.Keyed) {x : Container} (hx : store.lookup x.id = some x)
    (hsample : x.state = .running → (source.sample? x).getD {} = (source'.sample? x).getD {}) :
    (shaper.sources (source.enrich store.running) now c w).node x =
      (shaper.sources (source'.enrich store.running) now c w).node x := by
  refine Report.Sources.node_congr_getD rfl (fun hrunning => ?_) rfl
  have hstate : x.state = .running := LifeState.isRunning_iff.mp hrunning
  have hmem : x ∈ store.running := (Store.mem_running_iff h).mpr ⟨hx, hstate⟩
  have hids := Store.nodup_ids_running h
  show ((source.enrich store.running).get? x.id).getD {} = ((source'.enrich store.running).get? x.id).getD {}
  rw [source.get?_enrich hids hmem, source'.get?_enrich hids hmem, hsample hstate]

/-- The node of a container depends on the metrics source through the container's own sample alone, and only
while the container is running. -/
theorem get?_nodes_report_congr (h : store.Keyed) {id : String}
    (hsample : ∀ x, store.lookup id = some x → x.state = .running →
      (source.sample? x).getD {} = (source'.sample? x).getD {}) :
    (report ⟨shaper, source.informant, unreadable⟩ store now c w).1.container.nodes.get?
        (NodeId.ofContainer id) =
      (report ⟨shaper, source'.informant, unreadable⟩ store now c w).1.container.nodes.get?
        (NodeId.ofContainer id) := by
  rw [report_informant, report_informant, Report.Sources.assemble, Report.Sources.assemble,
    Report.Sources.get?_nodes_ofContainer h, Report.Sources.get?_nodes_ofContainer h]
  refine Option.map_congr fun x hx => ?_
  have hlookup : store.lookup id = some x := (Option.filter_eq_some_iff.mp hx).1
  exact node_congr h (h id x hlookup ▸ hlookup) (hsample x hlookup)

theorem report_congr (h : store.Keyed)
    (hsample : ∀ x, store.lookup x.id = some x → x.state = .running →
      (source.sample? x).getD {} = (source'.sample? x).getD {}) :
    report ⟨shaper, source.informant, unreadable⟩ store now c w =
      report ⟨shaper, source'.informant, unreadable⟩ store now c w := by
  rw [report_informant, report_informant, Report.Sources.assemble, Report.Sources.assemble,
    Report.Sources.nodes, Report.Sources.nodes]
  have hnodes : ∀ x ∈ store.snapshot.filter (·.state.isReported),
      (NodeId.ofContainer x.id, (shaper.sources (source.enrich store.running) now c w).node x) =
        (NodeId.ofContainer x.id, (shaper.sources (source'.enrich store.running) now c w).node x) := by
    intro x hx
    have hlookup := (Store.mem_snapshot_iff h).mp (List.mem_filter.mp hx).1
    rw [node_congr h hlookup (hsample x hlookup)]
  rw [List.map_congr_left hnodes]

/-- A report made during an outage is the one of a source that has nothing to say. -/
theorem report_orUnset (h : store.Keyed) :
    report ⟨shaper, source.orUnset.informant, unreadable⟩ store now c w =
      report ⟨shaper, source.informant, unreadable⟩ store now c w :=
  report_congr h fun x _ _ => by rw [source.sample?_orUnset]; rfl

end Service

/-! ## The answer to a request for the report -/

namespace Report

/-- The priorities in a report are numbers that read back. -/
theorem Sources.priorities_assemble (src : Sources) (containers : List Container) :
    ∀ p ∈ (src.assemble containers).container.priorities, p.ReadsBack := by
  show ∀ p ∈ emptyTopology.priorities, p.ReadsBack
  unfold Number.Binary64.ReadsBack
  decide +kernel

theorem Sources.asNumbers_assemble (src : Sources) (containers : List Container) :
    (src.assemble containers).asNumbers = src.assemble containers := by
  have htemplates : emptyTopology.metadataTemplates.map MetadataTemplate.asNumbers =
      emptyTopology.metadataTemplates := by decide +kernel
  rw [assemble, Document.asNumbers, Topology.asNumbers, htemplates]

/-- The text of a report reads as the report. -/
theorem Sources.read?_assemble (src : Sources) (containers : List Container) :
    Wire.report.read? (src.assemble containers).toJson.render = some (src.assemble containers) := by
  have hread := @Wire.read?_write .report (src.assemble containers) fun p hp =>
    .inr (src.priorities_assemble containers p hp)
  exact hread.trans (congrArg some (src.asNumbers_assemble containers))

end Report

namespace Service

theorem answer_report (s : Service σ) (store : Store) (now : Instant) {r : HttpRequest}
    (hmethod : r.method = "GET") (htarget : targetPath r.target = .ok "/report") (c : Cache) (w : σ) :
    s.answer store now r c w =
      (.json 200 (s.report store now c w).1.toJson, c, (s.report store now c w).2) := by
  have hname : isMethod r.method := by
    rw [hmethod]
    decide
  rw [answer, htarget]
  show (if isMethod r.method then s.answerAt store now "/report" r c w else _) = _
  rw [if_pos hname, answerAt, if_pos rfl, if_pos hmethod]

end Service

/-! ## Whom a service asks -/

/-- A host with something beside it that it knows nothing of. -/
def Host.beside (h : Host σ) (α : Type) : Host (σ × α) where
  resolve pid w := ((h.resolve pid w.1).1, (h.resolve pid w.1).2, w.2)
  run pid commands w := ((h.run pid commands w.1).1, (h.run pid commands w.1).2, w.2)

/-- The informant that also writes down what it is asked about. -/
def Informant.recorded (ask : Informant σ) : Informant (σ × List Container) := fun c w =>
  ((ask c w.1).1, (ask c w.1).2, w.2 ++ [c])

theorem Informant.samples_recorded (ask : Informant σ) (containers : List Container) (w : σ)
    (asked : List Container) : ask.recorded.samples containers (w, asked) =
      ((ask.samples containers w).1, (ask.samples containers w).2, asked ++ containers) := by
  induction containers generalizing w asked with
  | nil => rw [List.append_nil]; rfl
  | cons c containers ih =>
      have hask : ask.recorded c (w, asked) = ((ask c w).1, (ask c w).2, asked ++ [c]) := rfl
      simp only [samples, hask, ih, List.append_assoc, List.singleton_append]
      rcases (ask c w).1 with _ | e | s <;> rfl

theorem Informant.enrich_recorded (ask : Informant σ) (containers : List Container) (w : σ)
    (asked : List Container) : ask.recorded.enrich containers (w, asked) =
      ((ask.enrich containers w).1, (ask.enrich containers w).2, asked ++ containers) := by
  simp only [enrich, samples_recorded]

namespace Service

/-- The same service with a metrics source that writes down what it is asked about. -/
def asking (s : Service σ) : Service (σ × List Container) where
  shaper := ⟨s.shaper.builder, s.shaper.host.beside (List Container)⟩
  metrics := s.metrics.recorded
  unreadable := s.unreadable

/-- Writing down changes nothing about a report, and what is written down are the running containers. -/
theorem report_asking (s : Service σ) (store : Store) (now : Instant) (c : Cache) (w : σ)
    (asked : List Container) : s.asking.report store now c (w, asked) =
      ((s.report store now c w).1, (s.report store now c w).2, asked ++ store.running) := by
  rw [report, report]
  simp only [asking, Informant.enrich_recorded]
  rfl

theorem answer_report_asking (s : Service σ) (store : Store) (now : Instant) {r : HttpRequest}
    (hmethod : r.method = "GET") (htarget : targetPath r.target = .ok "/report") (c : Cache) (w : σ)
    (asked : List Container) : s.asking.answer store now r c (w, asked) =
      ((s.answer store now r c w).1, (s.answer store now r c w).2.1, (s.answer store now r c w).2.2,
        asked ++ store.running) := by
  rw [s.asking.answer_report store now hmethod htarget, s.answer_report store now hmethod htarget,
    report_asking]

end Service

/-- What is reported whatever becomes of the queries to the metrics source. A request for the report is answered
with success and a text that reads as the report, and while it is answered the source is asked about every
running container once, and about no other. The report has a node for every container that is running or
stopped. It is the report that is made when the all-unset sample is answered for the containers whose query
failed or got no answer. The node of a container is the same for all sources that answer alike for that
container, and even for all if it is not running. -/
theorem report_during_outage (shaper : Shaper σ) (source : MetricsSource) (unreadable : List UInt8 → String)
    (ops : List StoreOperation) (now : Instant) (c : Cache) (w : σ) :
    let store := Store.run ops {}
    let service (source : MetricsSource) : Service σ := ⟨shaper, source.informant, unreadable⟩
    let report (source : MetricsSource) := ((service source).report store now c w).1
    (∀ r : HttpRequest, r.method = "GET" → targetPath r.target = .ok "/report" →
      ∃ answer : HttpResponse, answer = .json 200 (report source).toJson ∧ answer.status = 200 ∧
        Wire.report.read? answer.body = some (report source) ∧
        (service source).answer store now r c w = (answer, c, w) ∧
        ∀ asked, ∃ queried : List Container, (queried.map (·.id)).Nodup ∧
          (∀ x, x ∈ queried ↔ store.lookup x.id = some x ∧ x.state = .running) ∧
          (service source).asking.answer store now r c (w, asked) = (answer, c, w, asked ++ queried)) ∧
    (∀ n, (∃ node, (report source).container.nodes.get? n = some node) ↔
      ∃ x, store.lookup x.id = some x ∧ (x.state = .running ∨ x.state = .stopped) ∧
        n = NodeId.ofContainer x.id) ∧
    report source.orUnset = report source ∧
    ∀ source' id, (∀ x, store.lookup id = some x → x.state = .running → source' x = source x) →
      (report source').container.nodes.get? (NodeId.ofContainer id) =
        (report source).container.nodes.get? (NodeId.ofContainer id) := by
  intro store service report
  have hkeyed : store.Keyed := Store.keyed_run ops Store.keyed_empty
  let sources := shaper.sources (source.enrich store.running) now c w
  have hreport : (service source).report store now c w = (sources.assemble store.snapshot, w) :=
    Service.report_informant shaper source unreadable store now c w
  have hdocument : report source = sources.assemble store.snapshot := congrArg Prod.fst hreport
  refine ⟨fun r hmethod htarget => ?_, fun n => ?_, ?_, fun source' id hsame => ?_⟩
  · have hanswer : (service source).answer store now r c w = (.json 200 (report source).toJson, c, w) := by
      rw [Service.answer_report _ store now hmethod htarget, hreport, hdocument]
    refine ⟨.json 200 (report source).toJson, rfl, rfl, ?_, hanswer, fun asked => ?_⟩
    · rw [hdocument]
      exact sources.read?_assemble store.snapshot
    · refine ⟨store.running, Store.nodup_ids_running hkeyed, fun x => Store.mem_running_iff hkeyed, ?_⟩
      rw [Service.answer_report_asking _ store now hmethod htarget, hanswer]
  · rw [hdocument]
    show (∃ node, (sources.nodes store.snapshot).get? n = some node) ↔ _
    simp only [Report.Sources.get?_nodes_snapshot hkeyed]
    constructor
    · rintro ⟨_, x, hlookup, hreported, hn, -⟩
      exact ⟨x, hlookup, LifeState.isReported_iff.mp hreported, hn.symm⟩
    · rintro ⟨x, hlookup, hstate, hn⟩
      exact ⟨_, x, hlookup, LifeState.isReported_iff.mpr hstate, hn.symm, rfl⟩
  · exact congrArg Prod.fst (Service.report_orUnset hkeyed)
  · exact Service.get?_nodes_report_congr hkeyed fun x hlookup hstate => by
      rw [MetricsSource.sample?, MetricsSource.sample?, hsame x hlookup hstate]

end TrafficShaping
