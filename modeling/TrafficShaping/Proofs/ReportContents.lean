import TrafficShaping.Proofs.ShownValues

/-!
# What a report says of every container

A report is a function of the containers, of what is applied to their namespaces, of samples and of an
instant, and each of its nodes is decided by one container alone. What a node shows depends on four things: in
which of its four states the container is, whether its process is found in a namespace that something was
applied to, which dimensions that has set, and whether there is a sample and a peer in it. The rule is short
where the combinations are many: what is applied counts as a whole, set or unset, and the sample only where
nothing is applied; and a container that does not run has nothing applied and no sample.
-/

namespace TrafficShaping.Report

/-- Whether a node shows a text for a dimension since some instant. -/
def Node.Shows (node : Node) (now : Instant) (d : Dimension) (text : String) : Prop :=
  node.latest.get? (dimensionKey d) = some ⟨now, text⟩

/-- What a topology promises of the node of a container, by what is applied to the namespace of the
container's process and by the container's sample. -/
structure Topology.Describes (topology : Topology) (now : Instant) (c : Container) (applied : Option Shape)
    (sample : Option Sample) (node : Node) : Prop where
  offered_iff : ∀ key, (∃ entry, node.controls.get? key = some entry) ↔
    ∃ offer, topology.controls.get? key = some offer
  dead_iff : ∀ key entry, node.controls.get? key = some entry →
    (entry.dead = true ↔ c.state ≠ .running)
  shows_applied : c.state = .running → ∀ shape, applied = some shape →
    ∀ d, node.Shows now d (shape.get d).text
  shows_sampled : c.state = .running → applied = none → ∀ s, sample = some s →
    node.Shows now .latency s.latency.text ∧ node.Shows now .packetLoss s.packetLoss.text
  shows_nothing : c.state = .stopped ∨ applied = none ∧ sample = none →
    ∀ d, node.Shows now d "-"
  peer_iff : ∀ entry, node.latest.get? (valueKey peerKey) = some entry ↔
    c.state = .running ∧ ∃ s label, sample = some s ∧ s.label = .set label ∧ entry = ⟨now, label⟩
  shows_no_more : ∀ key entry, node.latest.get? key = some entry →
    (∃ d, key = dimensionKey d) ∨ key = valueKey peerKey
  stamped : (∀ key entry, node.controls.get? key = some entry → entry.timestamp = now) ∧
    ∀ key entry, node.latest.get? key = some entry → entry.timestamp = now
  tabled : ∀ id table, topology.tableTemplates.get? id = some table →
    (∀ key entry, node.controls.get? key = some entry → ∃ rest, key = table.keyStart ++ rest) ∧
      ∀ key entry, node.latest.get? key = some entry → ∃ rest, key = table.keyStart ++ rest

/-! ## The parts of a node -/

namespace Sources

variable {src : Sources} {c : Container}

theorem get?_controls_eq_some_iff {key : String} {entry : ControlEntry} :
    (src.controls c).get? key = some entry ↔
      ∃ control : Control, key = control.id ∧ ⟨src.timestamp, !c.state.isRunning⟩ = entry :=
  Control.get?_ofList_all _

theorem shape_of_applied (hrunning : c.state = .running) {applied : Shape}
    (happlied : src.applied? c.pid = some applied) : src.shape c = applied := by
  rw [shape, hrunning, happlied]
  rfl

theorem shape_of_sampled (hrunning : c.state = .running) (happlied : src.applied? c.pid = none)
    {s : Sample} (hsample : src.samples.get? c.id = some s) : src.shape c = sampledShape s := by
  rw [shape, hrunning, happlied, hsample]
  rfl

theorem shape_of_nothing
    (h : c.state = .stopped ∨ src.applied? c.pid = none ∧ src.samples.get? c.id = none) :
    src.shape c = {} := by
  rcases h with hstopped | ⟨happlied, hsample⟩
  · rw [shape, hstopped]
    rfl
  · rw [shape, happlied, hsample]
    split <;> rfl

/-- The peer of a container, if it is running and its sample names one. -/
theorem peer_eq_set_iff {label : String} :
    src.peer c = .set label ↔
      c.state = .running ∧ ∃ s, src.samples.get? c.id = some s ∧ s.label = .set label := by
  rw [peer]
  cases hstate : c.state with
  | created | stopped | destroyed => simp [LifeState.isRunning]
  | running =>
      cases hsample : src.samples.get? c.id with
      | none => simp [LifeState.isRunning]
      | some s => simp [LifeState.isRunning]

theorem dimensionKey_inj {d d' : Dimension} : dimensionKey d = dimensionKey d' ↔ d = d' := by
  cases d <;> cases d' <;> decide

theorem dimensionKey_ne_peerKey (d : Dimension) : dimensionKey d ≠ valueKey peerKey := by
  cases d <;> decide

theorem get?_latest_peer {entry : Entry} :
    (src.latest c).get? (valueKey peerKey) = some entry ↔
      c.state = .running ∧ ∃ s label, src.samples.get? c.id = some s ∧ s.label = .set label ∧
        entry = ⟨src.timestamp, label⟩ := by
  rw [get?_latest_eq_some_iff]
  constructor
  · rintro (⟨d, hkey, -⟩ | ⟨-, hset, hentry⟩)
    · exact absurd hkey.symm (dimensionKey_ne_peerKey d)
    · cases hpeer : src.peer c with
      | unset =>
          rw [hpeer] at hset
          cases hset
      | set label =>
          rw [hpeer] at hentry
          obtain ⟨hrunning, s, hsample, hlabel⟩ := peer_eq_set_iff.mp hpeer
          exact ⟨hrunning, s, label, hsample, hlabel, hentry⟩
  · rintro ⟨hrunning, s, label, hsample, hlabel, hentry⟩
    have hpeer : src.peer c = .set label := peer_eq_set_iff.mpr ⟨hrunning, s, hsample, hlabel⟩
    exact .inr ⟨rfl, by rw [hpeer]; rfl, by rw [hentry, hpeer]; rfl⟩

end Sources

theorem dimensionKey_eq_append (d : Dimension) : ∃ rest, dimensionKey d = Control.tableStart ++ rest := by
  cases d with
  | latency => exact ⟨latencyKey, rfl⟩
  | packetLoss => exact ⟨packetLossKey, rfl⟩

/-- There is one table, for everything whose key begins like the ids of controls. -/
theorem keyStart_of_get?_tableTemplates {id : String} {table : TableTemplate}
    (h : emptyTopology.tableTemplates.get? id = some table) : table.keyStart = Control.tableStart := by
  have hmem := (Dict.get?_ofList_eq_some_iff (by simp)).mp h
  obtain ⟨-, rfl⟩ := Prod.mk.inj (List.mem_singleton.mp hmem)
  rfl

/-! ## The node as a whole -/

/-- The node of a container is as promised, whatever the other containers are. -/
theorem Sources.describes_node (src : Sources) (containers : List Container) (c : Container) :
    (src.assemble containers).container.Describes src.timestamp c (src.applied? c.pid)
      (src.samples.get? c.id) (src.node c) where
  offered_iff := by
    intro key
    show (∃ entry, (src.controls c).get? key = some entry) ↔
      ∃ offer, emptyTopology.controls.get? key = some offer
    simp only [get?_controls_eq_some_iff, get?_controls_emptyTopology]
    constructor
    · rintro ⟨_, control, hkey, -⟩
      exact ⟨_, control, hkey, rfl⟩
    · rintro ⟨_, control, hkey, -⟩
      exact ⟨_, control, hkey, rfl⟩
  dead_iff := by
    intro key entry h
    obtain ⟨control, -, rfl⟩ := get?_controls_eq_some_iff.mp h
    cases c.state <;> simp [LifeState.isRunning]
  shows_applied := by
    intro hrunning applied happlied d
    show (src.latest c).get? (dimensionKey d) = _
    rw [get?_latest, shape_of_applied hrunning happlied]
  shows_sampled := by
    intro hrunning happlied s hsample
    have hshows : ∀ d, (src.latest c).get? (dimensionKey d) = _ := src.get?_latest c
    rw [shape_of_sampled hrunning happlied hsample] at hshows
    exact ⟨hshows .latency, hshows .packetLoss⟩
  shows_nothing := by
    intro h d
    show (src.latest c).get? (dimensionKey d) = _
    rw [get?_latest, shape_of_nothing h]
    cases d <;> rfl
  peer_iff _ := get?_latest_peer
  shows_no_more := by
    intro key entry h
    rcases get?_latest_eq_some_iff.mp h with ⟨d, hkey, -⟩ | ⟨hkey, -⟩
    · exact .inl ⟨d, hkey⟩
    · exact .inr hkey
  stamped := by
    constructor
    · intro key entry h
      obtain ⟨control, -, rfl⟩ := get?_controls_eq_some_iff.mp h
      rfl
    · intro key entry h
      rcases get?_latest_eq_some_iff.mp h with ⟨d, -, rfl⟩ | ⟨-, -, rfl⟩ <;> rfl
  tabled := by
    intro id table htable
    rw [keyStart_of_get?_tableTemplates htable]
    constructor
    · intro key entry h
      obtain ⟨control, rfl, -⟩ := get?_controls_eq_some_iff.mp h
      exact ⟨control.suffix, rfl⟩
    · intro key entry h
      rcases get?_latest_eq_some_iff.mp h with ⟨d, rfl, -⟩ | ⟨rfl, -⟩
      · exact dimensionKey_eq_append d
      · exact ⟨peerKey, rfl⟩

/-- The report on containers with distinct ids has one node for each of them that is running or stopped, under
the node id of the container, and no other node; and each of these is as promised, by the entry that the cache
holds for the namespace that the container's process is found in and by the sample of the container. -/
theorem assemble_describes {ε : Type} (containers : List Container)
    (hids : (containers.map (·.id)).Nodup) (cache : Cache) (resolve : Pid → Except ε Identity)
    (enrichment : Option (Dict Sample)) (now : Instant) :
    let src : Sources := ⟨appliedIn cache resolve, enrichment.getD ∅, now⟩
    let report := (src.assemble containers).container
    report.nodes.size = (containers.filter fun c => c.state = .running ∨ c.state = .stopped).length ∧
      (∀ n node, report.nodes.get? n = some node → ∃ c ∈ containers,
        (c.state = .running ∨ c.state = .stopped) ∧ n = NodeId.ofContainer c.id) ∧
      (∃ table, report.tableTemplates.get? tableId = some table) ∧
      ∀ c ∈ containers,
        (c.state = .created ∨ c.state = .destroyed →
          report.nodes.get? (NodeId.ofContainer c.id) = none) ∧
        (c.state = .running ∨ c.state = .stopped →
          ∃ node, report.nodes.get? (NodeId.ofContainer c.id) = some node ∧
            report.Describes now c ((resolve c.pid).toOption.bind cache.get?)
              (enrichment.bind (·.get? c.id)) node) := by
  intro src report
  have hreported : ∀ c : Container, c.state.isReported = true ↔
      c.state = .running ∨ c.state = .stopped := by
    intro c
    cases c.state <;> simp [LifeState.isReported]
  have hnodes : ∀ {n : String} {node : Node}, report.nodes.get? n = some node ↔ _ :=
    src.get?_nodes hids
  refine ⟨?_, ?_, ⟨_, rfl⟩, fun c hc => ⟨fun hstate => ?_, fun hstate => ?_⟩⟩
  · have hfilter : containers.filter (·.state.isReported) =
        containers.filter fun c => c.state = .running ∨ c.state = .stopped :=
      List.filter_congr fun c _ => by rw [Bool.eq_iff_iff, hreported, decide_eq_true_eq]
    rw [← hfilter]
    exact (Dict.size_ofList (Sources.nodup_nodeIds hids src)).trans (List.length_map _)
  · intro n node h
    obtain ⟨c, hc, hstate, hn, -⟩ := hnodes.mp h
    exact ⟨c, hc, (hreported c).mp hstate, hn.symm⟩
  · refine Option.eq_none_iff_forall_ne_some.mpr fun node h => ?_
    obtain ⟨other, hother, hstate', hn, -⟩ := hnodes.mp h
    obtain rfl : other = c :=
      List.inj_on_of_nodup_map hids hother hc (NodeId.ofContainer_injective hn)
    rcases hstate with hstate | hstate <;> simp [hstate, LifeState.isReported] at hstate'
  · have hsample : src.samples.get? c.id = enrichment.bind (·.get? c.id) := by
      cases enrichment <;> rfl
    have hdescribes := src.describes_node containers c
    rw [hsample] at hdescribes
    exact ⟨src.node c, hnodes.mpr ⟨c, hc, (hreported c).mpr hstate, rfl, rfl⟩, hdescribes⟩

/-- A dimension that is unset in the cache shows as unset, although the sample has a value for it; the peer is
the sample's. -/
theorem assemble_describes_half_shaped :
    let n : Identity := ⟨"4026531840", by decide⟩
    let cache : Cache := Cache.apply {} n (.latency "500ms")
    let resolve : Pid → Except Unit Identity := fun pid => if pid = 7 then .ok n else .error ()
    let samples : Dict Sample := .ofList [("abc", ⟨.set "user-db", .set "1ms", .set "5%"⟩)]
    let containers : List Container := [
      { id := "def", state := .stopped }, { id := "abc", pid := 7, state := .running }, { id := "" }]
    let now : Instant := ⟨⟨1970, 1, 1, by decide⟩, ⟨0, 0, 0, 0, by decide⟩⟩
    (containers.map (·.id)).Nodup ∧ ∃ node,
      ((Sources.mk (appliedIn cache resolve) samples now).assemble containers).container.nodes.get?
        (NodeId.ofContainer "abc") = some node ∧
      node.Shows now .latency "500ms" ∧ node.Shows now .packetLoss "-" ∧
      node.latest.get? (valueKey peerKey) = some ⟨now, "user-db"⟩ := by
  intro n cache resolve samples containers now
  have hids : (containers.map (·.id)).Nodup := by decide
  let abc : Container := { id := "abc", pid := 7, state := .running }
  have hmem : abc ∈ containers := by simp [containers, abc]
  obtain ⟨-, -, -, hcontainers⟩ := assemble_describes containers hids cache resolve (some samples) now
  obtain ⟨node, hnode, hdescribes⟩ := (hcontainers abc hmem).2 (.inl rfl)
  have happlied : (resolve abc.pid).toOption.bind cache.get? = some { latency := .set "500ms" } := by
    decide
  refine ⟨hids, node, hnode, hdescribes.shows_applied rfl _ happlied .latency,
    hdescribes.shows_applied rfl _ happlied .packetLoss, ?_⟩
  exact (hdescribes.peer_iff _).mpr
    ⟨rfl, ⟨.set "user-db", .set "1ms", .set "5%"⟩, "user-db", by decide, rfl, rfl⟩

end TrafficShaping.Report
