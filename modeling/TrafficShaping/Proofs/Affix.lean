import TrafficShaping.NodeId
import TrafficShaping.Namespace
import Mathlib.Data.List.Basic

/-!
# Taking off a start or an ending

A text that has a given start is that start and the rest, and there is only one such rest. So `stripStart?`
and `stripEnd?` undo an append and do nothing else: they answer exactly for the texts that an append makes,
and with the part that was appended to. Node ids, control ids and namespace links are all read this way, and
a text that carries an affix twice loses one copy only.
-/

namespace TrafficShaping.Text

theorem stripStart?_eq_some_iff {start s rest : String} :
    stripStart? start s = some rest ↔ s = start ++ rest := by
  rw [stripStart?, Option.map_eq_some_iff, ← String.toList_inj, String.toList_append]
  constructor
  · rintro ⟨cs, h, rfl⟩
    rw [String.toList_ofList]
    exact (List.isPrefixOf?_eq_some_iff_append_eq.mp h).symm
  · intro h
    exact ⟨rest.toList, List.isPrefixOf?_eq_some_iff_append_eq.mpr h.symm, String.ofList_toList⟩

theorem stripEnd?_eq_some_iff {ending s rest : String} :
    stripEnd? ending s = some rest ↔ s = rest ++ ending := by
  rw [stripEnd?, Option.map_eq_some_iff, ← String.toList_inj, String.toList_append]
  constructor
  · rintro ⟨cs, h, rfl⟩
    have hs := List.isPrefixOf?_eq_some_iff_append_eq.mp h
    rw [String.toList_ofList, ← List.reverse_reverse s.toList, ← hs, List.reverse_append,
      List.reverse_reverse]
  · intro h
    refine ⟨rest.toList.reverse, List.isPrefixOf?_eq_some_iff_append_eq.mpr ?_, ?_⟩
    · rw [h, List.reverse_append]
    · rw [List.reverse_reverse, String.ofList_toList]

end TrafficShaping.Text

namespace TrafficShaping.NodeId

/-- A node id names a container exactly when it is the container's node id. -/
theorem container?_eq_some_iff {nodeId id : String} :
    container? nodeId = some id ↔ nodeId = ofContainer id :=
  Text.stripEnd?_eq_some_iff

theorem container?_eq_none_iff {nodeId : String} :
    container? nodeId = none ↔ ∀ id, nodeId ≠ ofContainer id := by
  rw [Option.eq_none_iff_forall_ne_some]
  exact forall_congr' fun id => not_congr container?_eq_some_iff

theorem container_eq_ok_iff {nodeId id : String} : container nodeId = .ok id ↔ nodeId = ofContainer id := by
  rw [← container?_eq_some_iff, container]
  cases container? nodeId with
  | none => simp
  | some id' => simp

theorem container_eq_error_iff {nodeId : String} {e : Malformed} :
    container nodeId = .error e ↔ e = ⟨nodeId⟩ ∧ ∀ id, nodeId ≠ ofContainer id := by
  rw [← container?_eq_none_iff, container]
  cases container? nodeId with
  | none => simp [eq_comm]
  | some id => simp

theorem container_ofContainer (id : String) : container (ofContainer id) = .ok id :=
  container_eq_ok_iff.mpr rfl

theorem ofContainer_injective : Function.Injective ofContainer := by
  intro a b h
  have ha := container_ofContainer a
  rw [h, container_ofContainer] at ha
  exact (Except.ok.inj ha).symm

/-- A text that does not end in the suffix is the node id of no container. -/
theorem forall_ne_ofContainer_iff {nodeId : String} :
    (∀ id, nodeId ≠ ofContainer id) ↔ ¬suffix.toList <:+ nodeId.toList := by
  rw [← not_exists, not_iff_not]
  constructor
  · rintro ⟨id, rfl⟩
    rw [ofContainer, String.toList_append]
    exact List.suffix_append id.toList suffix.toList
  · rintro ⟨id, h⟩
    refine ⟨String.ofList id, String.toList_inj.mp ?_⟩
    rw [ofContainer, String.toList_append, String.toList_ofList, h]

/-- Node ids and container ids determine each other. Reading the node id of a container gives the container's
id, of which an ending that is itself the suffix stays, and a text that is read is the node id of what was read.
A text is read exactly if it ends in the suffix, and is handed back otherwise. -/
theorem container_inverts_ofContainer (nodeId id : String) :
    (container nodeId = .ok id ↔ nodeId = ofContainer id) ∧
      (∀ e, container nodeId = .error e ↔ e.nodeId = nodeId ∧ ¬";<container>".toList <:+ nodeId.toList) ∧
      container (id ++ ";<container>") = .ok id ∧
      container (id ++ ";<container>" ++ ";<container>") = .ok (id ++ ";<container>") ∧
      (∀ read, container nodeId = .ok read → ofContainer read = nodeId) ∧
      ∀ other, ofContainer other = ofContainer id → other = id := by
  refine ⟨container_eq_ok_iff, fun e => ?_, container_ofContainer id, container_ofContainer _,
    fun read h => (container_eq_ok_iff.mp h).symm, fun other h => ofContainer_injective h⟩
  obtain ⟨given⟩ := e
  rw [container_eq_error_iff, Malformed.mk.injEq, forall_ne_ofContainer_iff]
  rfl

end TrafficShaping.NodeId
