import TrafficShaping.Dispatch
import TrafficShaping.Proofs.ReportNodes

/-!
# What is offered can be asked for, and nothing else

A report offers controls on nodes, and a request names one of each. Reporting and resolving do not know of
each other: a report goes through the containers and writes ids, and resolving takes ids apart and looks the
container up. They agree on every pair of texts all the same. A text that resolves to a container is the node
id of that container and of no other, and a text that resolves to a control is the id under which that
control is offered.

Two things could still come between them, and both are ruled out for a store that comes of watching. A
container might stand under an id that is not its own, and its node would then resolve to another one; and a
running container might have no process, and its controls would then be offered in vain.
-/

namespace TrafficShaping

theorem Control.find?_suffix_eq_some_iff {suffix : String} {c : Control} :
    all.find? (·.suffix == suffix) = some c ↔ suffix = c.suffix := by
  constructor
  · intro h
    have hsuffix := List.find?_some h
    exact (eq_of_beq hsuffix).symm
  · rintro rfl
    cases c <;> decide

theorem Control.ofId?_eq_some_iff {id : String} {c : Control} : ofId? id = some c ↔ id = c.id := by
  rw [ofId?, Option.bind_eq_some_iff]
  constructor
  · rintro ⟨suffix, hstart, hfind⟩
    rw [Text.stripStart?_eq_some_iff.mp hstart, find?_suffix_eq_some_iff.mp hfind]
    rfl
  · intro h
    exact ⟨c.suffix, Text.stripStart?_eq_some_iff.mpr h, find?_suffix_eq_some_iff.mpr rfl⟩

/-- What a request has to name, and what it then resolves to. -/
theorem Store.resolve_eq_ok_iff {s : Store} {n c : String} {r : Resolved} :
    s.resolve n c = .ok r ↔ n = NodeId.ofContainer r.container ∧ c = r.control.id ∧
      ∃ container, s.lookup r.container = some container ∧ container.state.isRunning ∧
        container.pid ≠ 0 ∧ container.pid = r.pid := by
  constructor
  · intro h
    rw [resolve] at h
    split at h
    · cases h
    · next id hid =>
        split at h
        · cases h
        · next container hlookup =>
            split at h
            · cases h
            · next control hcontrol =>
                split at h
                · next hrunning =>
                    obtain rfl := Except.ok.inj h
                    obtain ⟨hstate, hpid⟩ := Bool.and_eq_true_iff.mp hrunning
                    exact ⟨NodeId.container_eq_ok_iff.mp hid, Control.ofId?_eq_some_iff.mp hcontrol,
                      container, hlookup, hstate, of_decide_eq_true hpid, rfl⟩
                · cases h
  · rintro ⟨hn, hc, container, hlookup, hstate, hpid, heq⟩
    rw [resolve, NodeId.container_eq_ok_iff.mpr hn]
    simp only [hlookup, Control.ofId?_eq_some_iff.mpr hc]
    rw [if_pos (Bool.and_eq_true_iff.mpr ⟨hstate, decide_eq_true hpid⟩), heq]

/-- A request resolves exactly if a report offers its control and shows its node with live controls, and it
resolves to the container and the control that the report means. -/
theorem resolve_ok_iff_offered {s : Store} (h : s.Watched) (src : Report.Sources) (n c : String) :
    let report := (src.assemble s.snapshot).container
    ((∃ r, s.resolve n c = .ok r) ↔
        (∃ node, report.nodes.get? n = some node ∧ node.Live) ∧
          ∃ offer, report.controls.get? c = some offer) ∧
      ∀ r, s.resolve n c = .ok r →
        NodeId.ofContainer r.container = n ∧ r.pid ≠ 0 ∧
          (∃ container, s.lookup r.container = some container ∧ container.pid = r.pid) ∧
          report.controls.get? c = some r.control.advertised := by
  intro report
  have hkeyed : s.Keyed := h.proper.keyed
  have hnodes : ∀ {node : Report.Node}, report.nodes.get? n = some node ↔ _ :=
    src.get?_nodes_snapshot hkeyed
  have hcontrols : ∀ {offer : Report.Advertised}, report.controls.get? c = some offer ↔ _ :=
    Report.get?_controls_emptyTopology
  refine ⟨⟨?_, ?_⟩, ?_⟩
  · rintro ⟨r, hr⟩
    obtain ⟨hn, hc, container, hlookup, hstate, -, -⟩ := Store.resolve_eq_ok_iff.mp hr
    have hid : container.id = r.container := hkeyed r.container container hlookup
    have hreported : container.state.isReported := LifeState.isReported_of_isRunning hstate
    refine ⟨⟨src.node container, hnodes.mpr ⟨container, ?_, hreported, ?_, rfl⟩, ?_⟩, ?_⟩
    · rw [hid]
      exact hlookup
    · rw [hid, hn]
    · exact (src.live_node_iff container).mpr hstate
    · exact ⟨_, hcontrols.mpr ⟨r.control, hc, rfl⟩⟩
  · rintro ⟨⟨node, hnode, hlive⟩, offer, hoffer⟩
    obtain ⟨container, hlookup, -, hn, rfl⟩ := hnodes.mp hnode
    obtain ⟨control, hc, -⟩ := hcontrols.mp hoffer
    have hstate : container.state.isRunning := (src.live_node_iff container).mp hlive
    have hpid : container.pid ≠ 0 := (h.proper.sound _ container hlookup).mpr hstate
    exact ⟨⟨container.id, container.pid, control⟩, Store.resolve_eq_ok_iff.mpr
      ⟨hn.symm, hc, container, hlookup, hstate, hpid, rfl⟩⟩
  · intro r hr
    obtain ⟨hn, hc, container, hlookup, -, hpid, heq⟩ := Store.resolve_eq_ok_iff.mp hr
    exact ⟨hn.symm, heq ▸ hpid, ⟨container, hlookup, heq⟩, hcontrols.mpr ⟨r.control, hc, rfl⟩⟩

/-- A container that a daemon says is running is shown with its controls, so these can be asked for. -/
theorem resolve_ok_of_one_running :
    let d : Daemon Unit := {
      list := fun w => (some [some "abc"], w)
      inspect := fun id w => (some { id := some id, status := some .running, pid := some 7 }, w)
      events := fun _ w => (none, w) }
    let s := (d.sync {} ()).2.1
    s.Watched ∧ ∃ r, s.resolve "abc;<container>" "network-control-table-slow" = .ok r := by
  intro d s
  have hwatched : s.Watched := .sync d () .empty
  let abc : Container := { id := "abc", pid := 7, state := .running }
  let src : Report.Sources := {
    applied? := fun _ => none
    timestamp := ⟨⟨1970, 1, 1, by decide⟩, ⟨0, 0, 0, 0, by decide⟩⟩ }
  refine ⟨hwatched, (resolve_ok_iff_offered hwatched src _ _).1.mpr ⟨⟨src.node abc, ?_, ?_⟩, ?_⟩⟩
  · decide
  · exact (src.live_node_iff abc).mpr rfl
  · exact ⟨Control.slow.advertised, by decide⟩

end TrafficShaping
