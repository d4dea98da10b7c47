import TrafficShaping.Proofs.ReportNodes
import TrafficShaping.Proofs.StoreHistory
import TrafficShaping.Report.Wire

/-!
# What a report does not depend on

A report lists containers that a store has no order for, and it is polled, compared and shown by others. So it
must not tell in which order its containers were met, and what it says of one of them must not tell anything
about the others.

The first is so because a dictionary has one order only: two lists with the same containers fill it alike, as long
as no container stands twice. For the second the ids need not even be distinct. A node is filed under the node id
of its container, and since no two ids have the same node id, the entries under it are made of the records with
that id and of nothing else.
-/

namespace TrafficShaping.Report

namespace Sources

variable {src src' : Sources} {containers containers' : List Container}

theorem nodes_perm (src : Sources) (hids : (containers.map (·.id)).Nodup)
    (hperm : containers.Perm containers') : src.nodes containers = src.nodes containers' := by
  have hids' : (containers'.map (·.id)).Nodup := (hperm.map _).nodup_iff.mp hids
  refine Dict.ext_get? fun n => Option.ext fun node => ?_
  rw [src.get?_nodes hids, src.get?_nodes hids']
  simp only [hperm.mem_iff]

theorem assemble_perm (src : Sources) (hids : (containers.map (·.id)).Nodup)
    (hperm : containers.Perm containers') : src.assemble containers = src.assemble containers' := by
  rw [assemble, assemble, src.nodes_perm hids hperm]

/-- The node of a container is made of what is known under the container's id. -/
theorem get?_nodes_filter_id (src : Sources) (containers : List Container) (id : String) :
    (src.nodes (containers.filter (·.id = id))).get? (NodeId.ofContainer id) =
      (src.nodes containers).get? (NodeId.ofContainer id) := by
  have hfiled : ∀ c : Container, (NodeId.ofContainer c.id = NodeId.ofContainer id) = (c.id = id) :=
    fun c => propext NodeId.ofContainer_injective.eq_iff
  -- of all entries only those under the node id count, and they are made of the records with the id
  rw [nodes, nodes, ← Dict.get?_ofList_filter_key (List.map _ (containers.filter _)), List.filter_map,
    List.filter_comm]
  simp only [Function.comp_def, hfiled]

theorem node_congr {c : Container} (happlied : src.applied? c.pid = src'.applied? c.pid)
    (hsample : src.samples.get? c.id = src'.samples.get? c.id) (htime : src.timestamp = src'.timestamp) :
    src.node c = src'.node c := by
  have hshape : src.shape c = src'.shape c := by rw [shape, shape, happlied, hsample]
  have hpeer : src.peer c = src'.peer c := by rw [peer, peer, hsample]
  rw [node, node, controls, controls, latest, latest, hshape, hpeer, htime]

/-- The node of a container stays the same, whatever the others are and whatever samples they have. -/
theorem get?_nodes_congr {id : String} (hrecords : containers.filter (·.id = id) = containers'.filter (·.id = id))
    (happlied : src.applied? = src'.applied?) (hsample : src.samples.get? id = src'.samples.get? id)
    (htime : src.timestamp = src'.timestamp) :
    (src.nodes containers).get? (NodeId.ofContainer id) =
      (src'.nodes containers').get? (NodeId.ofContainer id) := by
  have hnode : ∀ c ∈ (containers'.filter (·.id = id)).filter (·.state.isReported),
      (NodeId.ofContainer c.id, src.node c) = (NodeId.ofContainer c.id, src'.node c) := by
    intro c hc
    have hid : c.id = id := of_decide_eq_true (List.mem_filter.mp (List.mem_filter.mp hc).1).2
    rw [node_congr (congrFun happlied c.pid) (by rw [hid, hsample]) htime]
  rw [← src.get?_nodes_filter_id, ← src'.get?_nodes_filter_id, hrecords, nodes, nodes,
    List.map_congr_left hnode]

end Sources

/-- The text of a report does not depend on the order of its containers, and the node of a container does not
depend on the records and the samples of the others. So stores with the same records have the same report,
whatever made them so. -/
theorem report_text_of_records {ε : Type} (cache : Cache) (resolve : Pid → Except ε Identity)
    (enrichment : Option (Dict Sample)) (now : Instant) :
    let sources (enrichment : Option (Dict Sample)) : Sources :=
      ⟨appliedIn cache resolve, enrichment.getD ∅, now⟩
    let text (containers : List Container) : List UInt8 :=
      ((sources enrichment).assemble containers).toJson.render
    (∀ containers containers' : List Container, (containers.map (·.id)).Nodup →
      containers.Perm containers' → text containers = text containers') ∧
    (∀ (enrichment' : Option (Dict Sample)) (containers containers' : List Container) (id : String),
      containers.filter (·.id = id) = containers'.filter (·.id = id) →
      enrichment.bind (·.get? id) = enrichment'.bind (·.get? id) →
      ((sources enrichment).assemble containers).container.nodes.get? (NodeId.ofContainer id) =
        ((sources enrichment').assemble containers').container.nodes.get? (NodeId.ofContainer id)) ∧
    ∀ ops ops' : List StoreOperation,
      (∀ c, c ∈ (Store.run ops {}).snapshot ↔ c ∈ (Store.run ops' {}).snapshot) →
      text (Store.run ops {}).snapshot = text (Store.run ops' {}).snapshot := by
  intro sources text
  have hperm : ∀ containers containers' : List Container, (containers.map (·.id)).Nodup →
      containers.Perm containers' → text containers = text containers' :=
    fun containers containers' hids h =>
      congrArg (·.toJson.render) ((sources enrichment).assemble_perm hids h)
  refine ⟨hperm, ?_, ?_⟩
  · intro enrichment' containers containers' id hrecords hsample
    have hget : ∀ enrichment : Option (Dict Sample),
        (enrichment.getD ∅).get? id = enrichment.bind (·.get? id) := by
      rintro (_ | samples) <;> rfl
    refine Sources.get?_nodes_congr hrecords rfl ?_ rfl
    exact (hget enrichment).trans (hsample.trans (hget enrichment').symm)
  · intro ops ops' hrecords
    have hids : ∀ ops, ((Store.run ops {}).snapshot.map (·.id)).Nodup :=
      fun ops => Store.nodup_ids_snapshot (Store.keyed_run ops Store.keyed_empty)
    exact hperm _ _ (hids ops)
      ((List.perm_ext_iff_of_nodup (hids ops).of_map (hids ops').of_map).mpr hrecords)

end TrafficShaping.Report
