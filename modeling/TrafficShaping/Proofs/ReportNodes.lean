import TrafficShaping.Proofs.Affix
import TrafficShaping.Proofs.WatchedStore
import TrafficShaping.Report.Assembly

/-!
# The nodes of a report

A report is made of dictionaries that are filled from lists, and a later entry would take the place of an
earlier one with the same key. None ever does: controls have distinct ids, and the containers of a snapshot
have distinct ids, which their node ids inherit because a suffix can be taken off again. So every look-up in
a report can be traced back to the one control or container that it is about.
-/

namespace TrafficShaping

theorem LifeState.isReported_iff {state : LifeState} :
    state.isReported ↔ state = .running ∨ state = .stopped := by
  cases state <;> simp [isReported]

theorem LifeState.isReported_of_isRunning {state : LifeState} (h : state.isRunning) :
    state.isReported := by
  cases state with
  | running => rfl
  | created | stopped | destroyed => cases h

namespace Control

theorem mem_all (c : Control) : c ∈ all := by
  cases c <;> decide

theorem nodup_ids : (all.map id).Nodup := by
  decide

/-- What is said of every control by its id, as a dictionary. -/
theorem get?_ofList_all {β : Type} (f : Control → β) {key : String} {value : β} :
    (Dict.ofList (all.map fun c => (c.id, f c))).get? key = some value ↔
      ∃ c, key = c.id ∧ f c = value := by
  have hkeys : ((all.map fun c => (c.id, f c)).map (·.1)).Nodup := by
    rw [List.map_map]
    exact nodup_ids
  rw [Dict.get?_ofList_eq_some_iff hkeys, List.mem_map]
  constructor
  · rintro ⟨c, -, h⟩
    exact ⟨c, (congrArg (·.1) h).symm, congrArg (·.2) h⟩
  · rintro ⟨c, rfl, rfl⟩
    exact ⟨c, c.mem_all, rfl⟩

end Control

namespace Report

theorem get?_controls_emptyTopology {key : String} {offer : Advertised} :
    emptyTopology.controls.get? key = some offer ↔ ∃ c, key = c.id ∧ Control.advertised c = offer :=
  Control.get?_ofList_all Control.advertised

/-- Whether none of the controls of a node is dead. -/
def Node.Live (node : Node) : Prop :=
  ∀ key entry, node.controls.get? key = some entry → entry.dead = false

namespace Sources

theorem live_node_iff (src : Sources) (c : Container) : (src.node c).Live ↔ c.state.isRunning := by
  have hcontrols : ∀ key entry, (src.node c).controls.get? key = some entry ↔
      ∃ control : Control, key = control.id ∧ ⟨src.timestamp, !c.state.isRunning⟩ = entry :=
    fun _ _ => Control.get?_ofList_all _
  constructor
  · intro h
    have hdead := h Control.clear.id _ ((hcontrols _ _).mpr ⟨.clear, rfl, rfl⟩)
    simpa using hdead
  · intro hrunning key entry h
    obtain ⟨control, -, rfl⟩ := (hcontrols key entry).mp h
    rw [hrunning]
    rfl

/-- The containers that are reported have distinct node ids if the containers have distinct ids. -/
theorem nodup_nodeIds {containers : List Container} (hids : (containers.map (·.id)).Nodup)
    (src : Sources) :
    (((containers.filter (·.state.isReported)).map fun c =>
      (NodeId.ofContainer c.id, src.node c)).map (·.1)).Nodup := by
  have hreported : ((containers.filter (·.state.isReported)).map (·.id)).Nodup :=
    hids.sublist (List.filter_sublist.map _)
  have hnodes := hreported.map NodeId.ofContainer_injective
  rw [List.map_map] at hnodes ⊢
  exact hnodes

/-- A node of a report is that of a reported container, whether or not the ids are distinct. -/
theorem exists_of_get?_nodes {src : Sources} {containers : List Container} {n : String} {node : Node}
    (h : (src.nodes containers).get? n = some node) :
    ∃ c ∈ containers, c.state.isReported ∧ NodeId.ofContainer c.id = n ∧ src.node c = node := by
  obtain ⟨c, hc, heq⟩ := List.mem_map.mp (Dict.mem_of_get?_ofList h)
  obtain ⟨hmem, hreported⟩ := List.mem_filter.mp hc
  exact ⟨c, hmem, hreported, congrArg (·.1) heq, congrArg (·.2) heq⟩

/-- The nodes of a report are those of the reported containers. -/
theorem get?_nodes {containers : List Container} (hids : (containers.map (·.id)).Nodup) (src : Sources)
    {n : String} {node : Node} :
    (src.nodes containers).get? n = some node ↔
      ∃ c ∈ containers, c.state.isReported ∧ NodeId.ofContainer c.id = n ∧ src.node c = node := by
  constructor
  · exact exists_of_get?_nodes
  · rintro ⟨c, hmem, hreported, rfl, rfl⟩
    rw [nodes, Dict.get?_ofList_eq_some_iff (nodup_nodeIds hids src), List.mem_map]
    exact ⟨c, List.mem_filter.mpr ⟨hmem, hreported⟩, rfl⟩

/-- The nodes of a report about what a store knows are those of its reported containers. -/
theorem get?_nodes_snapshot {s : Store} (h : s.Keyed) (src : Sources) {n : String} {node : Node} :
    (src.nodes s.snapshot).get? n = some node ↔
      ∃ c, s.lookup c.id = some c ∧ c.state.isReported ∧ NodeId.ofContainer c.id = n ∧
        src.node c = node := by
  rw [src.get?_nodes (Store.nodup_ids_snapshot h)]
  exact exists_congr fun c => and_congr_left' (Store.mem_snapshot_iff h)

end Sources

end Report

end TrafficShaping
