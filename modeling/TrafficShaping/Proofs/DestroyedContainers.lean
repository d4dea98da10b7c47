import TrafficShaping.Proofs.ControlRoute
import TrafficShaping.Proofs.ShownValues
import TrafficShaping.Proofs.StoreHistory

/-!
# What becomes of a destroyed container

A destroyed container is forgotten, and with it that there ever was one. So an event that is told of it
afterwards is an event of a container that is not known, and makes it known. A creation or a start has good
reason to do so, since the daemon may use an id again. A stop has none, but is treated alike: when it trails
the destruction, as it may for a container that removes itself, the container is back as a stopped one, shown
in every report, until something removes it once more.

Between a destruction and the next creation, start or record of a container there is therefore one question
that decides all: whether every stop that is told of it is followed by a removal. What a stop leaves is
always the same record, which is why a removal can be told from the record alone.
-/

namespace TrafficShaping

/-! ## After a destruction -/

/-- The record that is left of a container of which nothing but a stop is known. -/
def Container.remnant (id : String) : Container := { id, state := .stopped }

namespace StoreOperation

/-- Whether an operation makes a container known by rights. -/
def Brings (id : String) : StoreOperation → Prop
  | .upsert c => c.id = id
  | .apply (.created other _) | .apply (.started other _ _) => other = id
  | .apply (.stopped _) | .apply (.destroyed _) | .retain _ => False

/-- Whether an operation removes what is left of a container. -/
def Removes (id : String) : StoreOperation → Prop
  | .apply (.destroyed other) => other = id
  | .retain keep => keep (.remnant id) = false
  | .upsert _ | .apply (.created _ _) | .apply (.started _ _ _) | .apply (.stopped _) => False

end StoreOperation

/-- Whether every stop of a container among operations is followed by its removal. -/
def StopsUndone (id : String) (ops : List StoreOperation) : Prop :=
  ∀ earlier later, ops = earlier ++ .apply (.stopped id) :: later → ∃ o ∈ later, o.Removes id

theorem stopsUndone_nil (id : String) : StopsUndone id [] := by
  intro earlier later h
  simp at h

theorem stopsUndone_append_singleton {id : String} {ops : List StoreOperation} {o : StoreOperation} :
    StopsUndone id (ops ++ [o]) ↔
      o ≠ .apply (.stopped id) ∧ (o.Removes id ∨ StopsUndone id ops) := by
  constructor
  · intro h
    refine ⟨?_, or_iff_not_imp_left.mpr fun hnot earlier later hops => ?_⟩
    · rintro rfl
      obtain ⟨p, hp, -⟩ := h ops [] rfl
      cases hp
    · obtain ⟨p, hp, hremoves⟩ := h earlier (later ++ [o]) (by rw [hops]; simp)
      rcases List.mem_append.mp hp with hp | hp
      · exact ⟨p, hp, hremoves⟩
      · rw [List.mem_singleton.mp hp] at hremoves
        exact absurd hremoves hnot
  · rintro ⟨hstop, h⟩ earlier later hops
    rcases List.eq_nil_or_concat later with rfl | ⟨later, last, rfl⟩
    · exact absurd (List.append_inj_right' hops rfl) (by simpa using hstop)
    · have hsplit : ops ++ [o] = (earlier ++ .apply (.stopped id) :: later) ++ [last] := by
        rw [hops]
        simp
      obtain rfl : o = last := by simpa using List.append_inj_right' hsplit rfl
      have hops := List.append_inj_left' hsplit rfl
      rcases h with hremoves | h
      · exact ⟨o, by simp, hremoves⟩
      · obtain ⟨p, hp, hremoves⟩ := h earlier later hops
        exact ⟨p, by simp [hp], hremoves⟩

namespace StoreOperation

variable {id : String} {before : Option Container}

/-! The three things that an operation can do to a container that is not known or only left over: a stop
leaves it over, a removal makes it unknown, and everything else that does not bring it back changes
nothing. -/

theorem entry_stopped (h : before = none ∨ before = some (.remnant id)) :
    (apply (.stopped id)).entry id before = some (.remnant id) := by
  rw [entry, if_pos (show id = (LifeEvent.stopped id).id from rfl)]
  rcases h with rfl | rfl <;> rfl

theorem entry_of_removes {o : StoreOperation} (ho : o.Removes id)
    (h : before = none ∨ before = some (.remnant id)) : o.entry id before = none := by
  cases o with
  | upsert c => exact ho.elim
  | retain keep =>
      have hkeep : keep (.remnant id) = false := ho
      rcases h with rfl | rfl <;> simp [entry, Option.filter, hkeep]
  | apply e =>
      cases e with
      | created other name | started other name pid | stopped other => exact ho.elim
      | destroyed other =>
          obtain rfl : other = id := ho
          exact if_pos rfl

theorem entry_of_idle {o : StoreOperation} (hbrings : ¬o.Brings id) (hstop : o ≠ apply (.stopped id))
    (hremoves : ¬o.Removes id) (h : before = none ∨ before = some (.remnant id)) :
    o.entry id before = before := by
  cases o with
  | upsert c => exact if_neg fun hid => hbrings hid.symm
  | retain keep =>
      have hkeep : keep (.remnant id) = true := by simpa [Removes] using hremoves
      rcases h with rfl | rfl <;> simp [entry, Option.filter, hkeep]
  | apply e =>
      have hid : id ≠ e.id := by
        rintro rfl
        cases e with
        | created other name | started other name pid => exact hbrings rfl
        | stopped other => exact hstop rfl
        | destroyed other => exact hremoves rfl
      exact if_neg hid

end StoreOperation

/-- As long as nothing brings a container back by rights, it is either not known or what a stop has left, and
which of the two is decided by whether its stops have been undone. -/
theorem Store.lookup_run_of_not_brings {id : String} {ops : List StoreOperation}
    (h : ∀ o ∈ ops, ¬o.Brings id) {s : Store} (hs : s.lookup id = none) :
    (run ops s).lookup id = none ∧ StopsUndone id ops ∨
      (run ops s).lookup id = some (.remnant id) ∧ ¬StopsUndone id ops := by
  induction ops using List.reverseRecOn with
  | nil => exact .inl ⟨hs, stopsUndone_nil id⟩
  | append_singleton ops o ih =>
      have ih := ih fun p hp => h p (List.mem_append_left _ hp)
      have ho : ¬o.Brings id := h o (by simp)
      have hbefore : (run ops s).lookup id = none ∨ (run ops s).lookup id = some (.remnant id) :=
        ih.imp And.left And.left
      have hstep : (run (ops ++ [o]) s).lookup id = o.entry id ((run ops s).lookup id) := by
        rw [run_append]
        exact o.lookup_perform (run ops s) id
      rw [hstep, stopsUndone_append_singleton]
      by_cases hstop : o = .apply (.stopped id)
      · rw [hstop, StoreOperation.entry_stopped hbefore]
        exact .inr ⟨rfl, fun hundone => hundone.1 rfl⟩
      · by_cases hremoves : o.Removes id
        · rw [StoreOperation.entry_of_removes hremoves hbefore]
          exact .inl ⟨rfl, hstop, .inl hremoves⟩
        · rw [StoreOperation.entry_of_idle ho hstop hremoves hbefore]
          simpa [hstop, hremoves] using ih

/-! ## What is seen of it -/

/-- A report shows no node for a container exactly if the container is not known or not to be reported. -/
theorem Report.Sources.get?_nodes_eq_none_iff {s : Store} (h : s.Keyed) (src : Report.Sources)
    (id : String) : (src.assemble s.snapshot).container.nodes.get? (NodeId.ofContainer id) = none ↔
      (s.lookup id).filter (·.state.isReported) = none := by
  show (src.nodes s.snapshot).get? (NodeId.ofContainer id) = none ↔ _
  rw [src.get?_nodes_ofContainer h, Option.map_eq_none_iff]

theorem DispatchError.message_notFound_ne_notRunning (id other : String) :
    message (.containerNotFound id) ≠ message (.containerNotRunning other) := by
  intro h
  change "container " ++ id ++ " not found" = "container " ++ other ++ " is not running" at h
  have hlast := congrArg (fun s : String => s.toList.getLast?) h
  have hfound : " not found".toList.getLast? = some 'd' := by decide
  have hrunning : " is not running".toList.getLast? = some 'g' := by decide
  simp only [String.toList_append, List.getLast?_append, hfound, hrunning] at hlast
  cases hlast

theorem DispatchError.message_notFound_ne_unknownControl (id control nodeId : String) :
    message (.containerNotFound id) ≠ message (.unknownControl control nodeId) := by
  intro h
  change "container " ++ id ++ " not found" =
    "unknown control ID " ++ Text.quoted control ++ " for node ID " ++ Text.quoted nodeId at h
  have hhead := congrArg (fun s : String => s.toList.head?) h
  have hcontainer : "container ".toList.head? = some 'c' := by decide
  have hunknown : "unknown control ID ".toList.head? = some 'u' := by decide
  simp only [String.toList_append, List.head?_append, hcontainer, hunknown] at hhead
  cases hhead

/-- A control of a container that does not run is answered with "not found" exactly if the container is not
known. -/
theorem Service.says_notFound_iff {σ : Type} (svc : Service σ) {s : Store} {body : List UInt8}
    {r : ControlRequest} (hr : ControlRequest.read? body = some r) {id : String}
    (hid : r.nodeId = NodeId.ofContainer id)
    (hidle : ∀ container, s.lookup id = some container → container.state.isRunning = false) (c : Cache)
    (w : σ) :
    (svc.control s body c w).1.Says (DispatchError.containerNotFound id).message ↔
      s.lookup id = none := by
  have hanswer : ∀ e, s.Refuses r.nodeId r.control e →
      ((svc.control s body c w).1.Says (DispatchError.containerNotFound id).message ↔
        (DispatchError.containerNotFound id).message = e.message) := by
    intro e he
    have hsays := says_controlAnswer e
    rw [svc.control_of_refuses hr he, HttpResponse.Says, hsays]
    constructor
    · intro heq
      exact (Option.some.inj (congrArg ControlResponse.error (Option.some.inj heq))).symm
    · intro heq
      rw [heq]
  cases hlookup : s.lookup id with
  | none => exact iff_of_true ((hanswer _ (.containerNotFound hid hlookup)).mpr rfl) rfl
  | some container =>
      refine iff_of_false (fun hsays => ?_) (by simp)
      have hstate : ¬(container.state.isRunning ∧ container.pid ≠ 0) := by
        simp [hidle container hlookup]
      by_cases hk : ∃ k : Control, r.control = k.id
      · obtain ⟨k, hk⟩ := hk
        have he := (hanswer _ (.containerNotRunning hid hlookup hk hstate)).mp hsays
        exact DispatchError.message_notFound_ne_notRunning _ _ he
      · have he := (hanswer _ (.unknownControl hid hlookup (not_exists.mp hk))).mp hsays
        exact DispatchError.message_notFound_ne_unknownControl _ _ _ he

/-- Between the destruction of a container and the next creation, start or record of it, the container is
unknown to the store, has no node in any report, and has its controls answered with "not found", each of them
exactly if every stop that is told of it is followed by its removal. -/
theorem destroyed_is_gone_iff (before after : List StoreOperation) (id : String)
    (h : ∀ o ∈ after, ¬o.Brings id) :
    let s := Store.run (before ++ .apply (.destroyed id) :: after) {}
    (s.lookup id = none ↔ StopsUndone id after) ∧
      (∀ src : Report.Sources,
        (src.assemble s.snapshot).container.nodes.get? (NodeId.ofContainer id) = none ↔
          StopsUndone id after) ∧
      ∀ {σ : Type} (svc : Service σ) (body : List UInt8) (r : ControlRequest) (c : Cache) (w : σ),
        ControlRequest.read? body = some r → r.nodeId = NodeId.ofContainer id →
          ((svc.control s body c w).1.Says (DispatchError.containerNotFound id).message ↔
            StopsUndone id after) := by
  intro s
  have hkeyed : s.Keyed := Store.keyed_run _ Store.keyed_empty
  have hgone : (StoreOperation.perform (Store.run before {}) (.apply (.destroyed id))).lookup id = none := by
    rw [StoreOperation.lookup_perform]
    exact if_pos rfl
  have hs : s = Store.run after (StoreOperation.perform (Store.run before {}) (.apply (.destroyed id))) :=
    Store.run_append before (.apply (.destroyed id) :: after) {}
  have hcases := Store.lookup_run_of_not_brings h hgone
  rw [← hs] at hcases
  have hidle : ∀ container, s.lookup id = some container → container.state.isRunning = false := by
    intro container hlookup
    rcases hcases with ⟨hnone, -⟩ | ⟨hremnant, -⟩
    · rw [hnone] at hlookup
      cases hlookup
    · obtain rfl := Option.some.inj (hremnant.symm.trans hlookup)
      rfl
  have hlookup : s.lookup id = none ↔ StopsUndone id after := by
    rcases hcases with ⟨hnone, hundone⟩ | ⟨hremnant, hundone⟩
    · exact iff_of_true hnone hundone
    · exact iff_of_false (by simp [hremnant]) hundone
  refine ⟨hlookup, fun src => ?_, fun svc body r c w hr hid => ?_⟩
  · rw [src.get?_nodes_eq_none_iff hkeyed, ← hlookup]
    rcases hcases with ⟨hnone, -⟩ | ⟨hremnant, -⟩
    · simp [hnone]
    · simp [hremnant, Option.filter, Container.remnant, LifeState.isReported]
  · rw [svc.says_notFound_iff hr hid hidle, hlookup]

/-- A container whose stop trailed its destruction is gone after the destruction is told a second time. -/
theorem destroyed_twice_is_gone :
    let after : List StoreOperation :=
      [.apply (.stopped "abc"), .retain fun c => c.id ≠ "def", .apply (.destroyed "abc")]
    (∀ o ∈ after, ¬o.Brings "abc") ∧
      (Store.run (.apply (.started "abc" none 7) :: .apply (.destroyed "abc") :: after) {}).lookup "abc" =
        none := by
  intro after
  have hbrings : ∀ o ∈ after, ¬o.Brings "abc" := by
    simp [after, StoreOperation.Brings]
  refine ⟨hbrings, (destroyed_is_gone_iff [.apply (.started "abc" none 7)] after "abc" hbrings).1.mpr ?_⟩
  have hundone : StopsUndone "abc" ([.apply (.stopped "abc"), .retain fun c => c.id ≠ "def"] ++
      [.apply (.destroyed "abc")]) :=
    stopsUndone_append_singleton.mpr ⟨by simp, .inl rfl⟩
  exact hundone

/-- A stop that trails the destruction of a container brings the container back: it is known, and a control of
it is not answered with "not found". -/
theorem stop_after_destruction_brings_back :
    let after : List StoreOperation := [.apply (.stopped "abc")]
    let s := Store.run (.apply (.started "abc" none 7) :: .apply (.destroyed "abc") :: after) {}
    (∀ o ∈ after, ¬o.Brings "abc") ∧ s.lookup "abc" = some { id := "abc", state := .stopped } ∧
      s.snapshot = [{ id := "abc", state := .stopped }] ∧
      s.resolve "abc;<container>" "network-control-table-slow" = .error (.containerNotRunning "abc") := by
  intro after s
  refine ⟨?_, by decide, by decide, by decide⟩
  simp [after, StoreOperation.Brings]

end TrafficShaping
