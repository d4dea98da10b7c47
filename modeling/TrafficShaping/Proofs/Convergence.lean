import TrafficShaping.Proofs.DaemonHistory
import TrafficShaping.Proofs.WatchedStore

/-!
# The store converges to the daemon

While a watch syncs, the daemon goes on, and afterwards the watch hears of everything again since before the
sync began. In between the store may say anything: an old creation is replayed over a container that has
been found running, a start is looked into when the container is long dead, a container stays although it
was gone when it was to be inspected. None of this matters once all events have been handled, because it is
decided for each container by itself. Either nothing was told of it since the watch began, and then it did
not change any more, so that the sync has seen what it is. Or there is a last event about it, and whatever
the store said before, handling that event makes it say what the event tells; only a start has to ask the
daemon, and by then the answer is final.

The daemon is any daemon that answers in keeping with a history, at a point of it that its state determines
and that never goes back. The sync and the events meet it at whatever points they like, except that an
inspection for an event comes after the event.
-/

namespace TrafficShaping

open Daemon (Change Condition Event History Inspection Transition)

/-! ## What a condition amounts to -/

namespace Daemon.Condition

/-- The state that is recorded of a container in a condition. -/
def state : Condition → LifeState
  | .created => .created
  | .running _ _ => .running
  | .paused | .exited => .stopped

/-- The process that is recorded of a container in a condition. -/
def pid : Condition → Pid
  | .running pid _ => pid
  | .created | .paused | .exited => 0

theorem state_ne_destroyed (c : Condition) : c.state ≠ .destroyed := by
  cases c <;> simp [state]

end Daemon.Condition

theorem Daemon.Inspection.record?_of_shows {i : Inspection} {id : String} {c : Condition}
    (hid : i.id = some id) (hc : i.Shows c) :
    i.record? = some { id, name := i.name, pid := c.pid, state := c.state } := by
  rw [record?, hid, Option.map_some]
  cases c with
  | created | paused | exited =>
      have hstatus : i.status = some _ := hc
      simp [state, hstatus, LifeState.isRunning, Condition.state, Condition.pid]
  | running pid alive =>
      obtain ⟨hstatus, hpid⟩ := hc
      have hprocess : i.process = pid := by
        have hbound : (0 : Int) ≤ pid.toNat ∧ (pid.toNat : Int) < 4294967296 := by
          have := pid.toNat_lt
          omega
        rw [process, hpid]
        exact (if_pos hbound).trans (by rw [Int.toNat_natCast, UInt32.ofNat_toNat])
      simp [state, hstatus, hprocess, alive, LifeState.isRunning, Condition.state, Condition.pid]

/-- Whether a store knows of a container what amounts to its condition, and nothing if it is gone. -/
def Store.Reflects (s : Store) (id : String) (condition : Option Condition) : Prop :=
  (s.lookup id).map (fun c => (c.state, c.pid)) = condition.map fun c => (c.state, c.pid)

theorem Store.reflects_congr {s s' : Store} {id : String} (h : s'.lookup id = s.lookup id)
    (condition : Option Condition) : s'.Reflects id condition ↔ s.Reflects id condition := by
  rw [Reflects, Reflects, h]

/-- An event makes a store know what it tells, whatever was known before. -/
theorem Store.reflects_apply (s : Store) (life : LifeEvent) {condition : Option Condition}
    (h : ∀ before, (life.entry before).map (fun c => (c.state, c.pid)) =
      condition.map fun c => (c.state, c.pid)) :
    (s.apply life).Reflects life.id condition := by
  rw [Reflects, lookup_apply, if_pos rfl]
  exact h _

namespace Daemon

variable {σ : Type}

/-! ## Daemons with a history -/

/-- Whether a daemon answers in keeping with a history, of which so much has happened as its clock says. No
call fails, except the inspection of a container that is not there. -/
structure Observes (d : Daemon σ) (h : History) (now : σ → Nat) (start : Nat) : Prop where
  list : ∀ w, now w ≤ now (d.list w).2 ∧ ∃ ids, (d.list w).1 = some ids ∧
    ∀ id, some id ∈ ids ↔ (History.condition? (h.take (now (d.list w).2)) id).isSome
  inspect : ∀ id w, now w ≤ now (d.inspect id w).2 ∧
    match History.condition? (h.take (now (d.inspect id w).2)) id with
    | none => (d.inspect id w).1 = none
    | some c => ∃ i, (d.inspect id w).1 = some i ∧ i.id = some id ∧ i.Shows c
  events : ∀ since w, now w ≤ now (d.events since w).2 ∧ ∃ stream,
    (d.events since w).1 = some stream ∧ stream.events = History.events (h.drop start)

/-- Whether every inspection that is made for an event comes after the event, when the events since some
point of a history are handled in order. -/
def Timely (d : Daemon σ) (h : History) (now : σ → Nat) (start : Nat) (s : Store) (w : σ) : Prop :=
  ∀ past e later id, h = past ++ .event e :: later → start ≤ past.length →
    e.tells? id = some .start →
    past.length < now (d.follow (History.events (past.drop start) ++ [e]) s w).2

variable {d : Daemon σ} {h : History} {now : σ → Nat} {start : Nat}

/-- The record that the daemon gives of a container. -/
theorem Observes.record? (hd : d.Observes h now start) (id : String) (w : σ) :
    now w ≤ now (d.record? id w).2 ∧
      match History.condition? (h.take (now (d.record? id w).2)) id with
      | none => (d.record? id w).1 = none
      | some c => ∃ name, (d.record? id w).1 = some { id, name, pid := c.pid, state := c.state } := by
  obtain ⟨hnow, hinspect⟩ := hd.inspect id w
  have hrecord : (d.record? id w).1 = (d.inspect id w).1.bind Inspection.record? := rfl
  rw [hrecord]
  refine ⟨hnow, ?_⟩
  show match History.condition? (h.take (now (d.inspect id w).2)) id with
    | none => _
    | some c => _
  cases hcondition : History.condition? (h.take (now (d.inspect id w).2)) id with
  | none =>
      rw [hcondition] at hinspect
      rw [show (d.inspect id w).1 = none from hinspect]
      rfl
  | some c =>
      rw [hcondition] at hinspect
      obtain ⟨i, hi, hid, hc⟩ := hinspect
      rw [hi]
      exact ⟨i.name, Inspection.record?_of_shows hid hc⟩

theorem Observes.id_of_record? (hd : d.Observes h now start) {id : String} {w : σ} {c : Container}
    (hc : (d.record? id w).1 = some c) : c.id = id := by
  have hrecord := (hd.record? id w).2
  split at hrecord
  · rw [hc] at hrecord
    cases hrecord
  · obtain ⟨name, hname⟩ := hrecord
    rw [hc] at hname
    rw [Option.some.inj hname]

/-- The record of a container whose condition does not change any more. -/
theorem Observes.record?_of_settled (hd : d.Observes h now start) {id : String} {w : σ}
    {c : Condition} (hc : ∀ m, now w ≤ m → History.condition? (h.take m) id = some c) :
    ∃ name, (d.record? id w).1 = some { id, name, pid := c.pid, state := c.state } := by
  obtain ⟨hnow, hrecord⟩ := hd.record? id w
  rw [hc _ hnow] at hrecord
  exact hrecord

/-! ## The sync -/

theorem subset_of_inspectAll (d : Daemon σ) (ids : List String) (s : Store) (w : σ) :
    (d.inspectAll ids s w).1 ⊆ ids := by
  induction ids generalizing s w with
  | nil => exact List.Subset.refl _
  | cons id ids ih =>
      rw [inspectAll]
      split
      · exact List.cons_subset_cons id (ih _ _)
      · split
        · exact List.subset_cons_of_subset id (ih _ _)
        · exact List.cons_subset_cons id (ih _ _)

theorem keyed_inspectAll (d : Daemon σ) (ids : List String) {s : Store} (hs : s.Keyed) (w : σ) :
    (d.inspectAll ids s w).2.1.Keyed := by
  induction ids generalizing s w with
  | nil => exact hs
  | cons id ids ih =>
      rw [inspectAll]
      split
      · exact ih hs _
      · split
        · exact ih hs _
        · exact ih (hs.upsert _) _

/-- A container that does not change any more is recorded as what it is, and counts as listed. -/
theorem Observes.reflects_inspectAll (hd : d.Observes h now start) {cid : String} {c : Condition}
    (ids : List String) {s : Store} {w : σ}
    (hc : ∀ m, now w ≤ m → History.condition? (h.take m) cid = some c) :
    (cid ∈ ids → cid ∈ (d.inspectAll ids s w).1) ∧
      (cid ∈ ids ∨ s.Reflects cid (some c) → (d.inspectAll ids s w).2.1.Reflects cid (some c)) := by
  induction ids generalizing s w with
  | nil => exact ⟨fun hmem => hmem, fun hbefore => hbefore.resolve_left List.not_mem_nil⟩
  | cons id ids ih =>
      have hlater : ∀ m, now (d.record? id w).2 ≤ m →
          History.condition? (h.take m) cid = some c :=
        fun m hm => hc m (Nat.le_trans (hd.record? id w).1 hm)
      by_cases hid : id = cid
      · obtain ⟨name, hname⟩ := hd.record?_of_settled hc
        have hrecord : d.record? id w = (some ⟨cid, name, c.pid, c.state⟩, (d.record? id w).2) :=
          Prod.ext (hid ▸ hname) rfl
        rw [inspectAll, hrecord]
        simp only [if_neg c.state_ne_destroyed]
        refine ⟨fun _ => hid ▸ List.mem_cons_self, fun _ => (ih hlater).2 (.inr ?_)⟩
        rw [Store.Reflects, Store.lookup_upsert, if_pos rfl]
        rfl
      · have hmem : cid ∈ id :: ids ↔ cid ∈ ids := by
          rw [List.mem_cons, or_iff_right (Ne.symm hid)]
        rw [hmem, inspectAll]
        split
        · next w' hrecord =>
            rw [hrecord] at hlater
            exact (ih hlater).imp_left fun hlisted hin => List.mem_cons_of_mem _ (hlisted hin)
        · next found w' hrecord =>
            rw [hrecord] at hlater
            split
            · exact ih hlater
            · have hfound : found.id = id := hd.id_of_record? (by rw [hrecord])
              have hlookup : (s.upsert found).lookup cid = s.lookup cid := by
                rw [Store.lookup_upsert, hfound, if_neg (Ne.symm hid)]
              rw [← Store.reflects_congr hlookup]
              exact (ih hlater).imp_left fun hlisted hin => List.mem_cons_of_mem _ (hlisted hin)

/-- What a sync does when the daemon answers. -/
theorem Observes.sync_eq (hd : d.Observes h now start) (s : Store) (w : σ) :
    ∃ (ids : List String) (v : σ), now w ≤ now v ∧
      (∀ cid, cid ∈ ids ↔ (History.condition? (h.take (now v)) cid).isSome) ∧
      d.sync s w = (.ok (), (d.inspectAll ids s v).2.1.retain
        (fun c => (d.inspectAll ids s v).1.contains c.id), (d.inspectAll ids s v).2.2) := by
  obtain ⟨hnow, ids, hids, hmem⟩ := hd.list w
  have hlist : d.list w = (some ids, (d.list w).2) := Prod.ext hids rfl
  refine ⟨ids.filterMap id, (d.list w).2, hnow, fun cid => ?_, ?_⟩
  · rw [← hmem, List.mem_filterMap]
    simp
  · rw [sync, hlist]

/-- A sync sees what a container is that does not change any more. -/
theorem Observes.reflects_sync (hd : d.Observes h now start) {s : Store} (hs : s.Keyed) {w : σ}
    {cid : String} {condition : Option Condition}
    (hsettled : ∀ m, now w ≤ m → History.condition? (h.take m) cid = condition) :
    (d.sync s w).2.1.Reflects cid condition := by
  obtain ⟨ids, v, hnow, hids, hsync⟩ := hd.sync_eq s w
  have hkeyed : (d.inspectAll ids s v).2.1.Keyed := d.keyed_inspectAll ids hs v
  have hlisted : cid ∈ ids ↔ condition.isSome := by
    rw [hids, hsettled _ hnow]
  rw [hsync, Store.Reflects, Store.lookup_retain]
  cases condition with
  | none =>
      have hnot : cid ∉ (d.inspectAll ids s v).1 :=
        fun hin => by simpa using hlisted.mp (d.subset_of_inspectAll ids s v hin)
      cases hlookup : (d.inspectAll ids s v).2.1.lookup cid with
      | none => rfl
      | some c => simp [Option.filter, hkeyed cid c hlookup, hnot]
  | some c =>
      have hin : cid ∈ ids := hlisted.mpr rfl
      obtain ⟨hkept, hreflects⟩ := hd.reflects_inspectAll (s := s) ids
        fun m hm => hsettled m (Nat.le_trans hnow hm)
      have hbefore := hreflects (.inl hin)
      rw [Store.Reflects] at hbefore
      rw [← hbefore]
      cases hlookup : (d.inspectAll ids s v).2.1.lookup cid with
      | none => rfl
      | some found => simp [Option.filter, hkeyed cid found hlookup, hkept hin]

/-! ## The events -/

theorem follow_append (d : Daemon σ) (es fs : List Event) (s : Store) (w : σ) :
    d.follow (es ++ fs) s w = d.follow fs (d.follow es s w).1 (d.follow es s w).2 :=
  List.foldl_append

/-- Handling an event changes nothing, or what is known about a container that the event tells something
of. -/
theorem fst_handle_cases (d : Daemon σ) (s : Store) (e : Event) (w : σ) :
    (d.handle s e w).1 = s ∨
      ∃ life, (e.tells? life.id).isSome ∧ (d.handle s e w).1 = s.apply life := by
  rw [fst_handle]
  cases hstep : e.step? fun id => (d.inspect id w).1 with
  | none => exact .inl rfl
  | some life =>
      obtain ⟨c, hchange, hid⟩ := Event.change?_of_step? hstep
      refine .inr ⟨life, ?_, rfl⟩
      rw [Event.tells?, hchange, Option.filter_some_pos (by simp [hid])]
      rfl

theorem keyed_follow (d : Daemon σ) (es : List Event) {s : Store} (hs : s.Keyed) (w : σ) :
    (d.follow es s w).1.Keyed := by
  induction es generalizing s w with
  | nil => exact hs
  | cons e es ih =>
      have hhandle : (d.handle s e w).1.Keyed := by
        rcases d.fst_handle_cases s e w with heq | ⟨life, -, heq⟩
        · rw [heq]
          exact hs
        · rw [heq]
          exact hs.apply life
      exact ih hhandle _

/-- An event that tells nothing of a container leaves what is known about it alone. -/
theorem lookup_handle_of_tells?_eq_none (d : Daemon σ) {e : Event} {cid : String}
    (he : e.tells? cid = none) (s : Store) (w : σ) : (d.handle s e w).1.lookup cid = s.lookup cid := by
  rcases d.fst_handle_cases s e w with heq | ⟨life, htells, heq⟩
  · rw [heq]
  · have hid : cid ≠ life.id := by
      rintro rfl
      rw [he] at htells
      cases htells
    rw [heq, Store.lookup_apply, if_neg hid]

theorem lookup_follow_of_tells?_eq_none (d : Daemon σ) {es : List Event} {cid : String}
    (hes : es.filterMap (·.tells? cid) = []) (s : Store) (w : σ) :
    (d.follow es s w).1.lookup cid = s.lookup cid := by
  induction es generalizing s w with
  | nil => rfl
  | cons e es ih =>
      have he : e.tells? cid = none := by
        cases he : e.tells? cid with
        | none => rfl
        | some t => simp [he] at hes
      rw [List.filterMap_cons, he] at hes
      exact (ih hes _ _).trans (d.lookup_handle_of_tells?_eq_none he s w)

/-- An event that tells what a container is from then on makes the store say so. -/
theorem Observes.reflects_handle (hd : d.Observes h now start) {e : Event} {cid : String}
    {condition : Option Condition} (he : e.tells? cid = some (.into condition)) {s : Store} {w : σ}
    (hsettled : e.tells? cid = some .start →
      History.condition? (h.take (now (d.handle s e w).2)) cid = condition) :
    (d.handle s e w).1.Reflects cid condition := by
  obtain ⟨⟨transition, id, name⟩, hc, htransition⟩ := Option.map_eq_some_iff.mp he
  obtain ⟨hchange, hid⟩ := Option.filter_eq_some_iff.mp hc
  obtain rfl : id = cid := of_decide_eq_true hid
  obtain rfl : transition = .into condition := htransition
  rw [handle, hchange] at hsettled ⊢
  cases condition with
  | none => exact s.reflects_apply (.destroyed id) fun _ => rfl
  | some condition =>
      cases condition with
      | created => exact s.reflects_apply (.created id name) fun _ => rfl
      | paused => exact s.reflects_apply (.stopped id) fun _ => rfl
      | exited => exact s.reflects_apply (.stopped id) fun _ => rfl
      | running pid alive =>
          have hrunning := hsettled he
          simp only [Transition.into, change_start] at hrunning ⊢
          have hrecord := (hd.record? id w).2
          rw [hrunning] at hrecord
          obtain ⟨found, hfound⟩ := hrecord
          rw [hfound]
          exact s.reflects_apply (.started id (found.or name) pid) fun _ => rfl

/-! ## The watch -/

theorem Observes.snd_watch (hd : d.Observes h now start) (since : Instant) (s : Store) (w : σ) :
    (d.watch since s w).2 = d.follow (History.events (h.drop start)) (d.sync s w).2.1
      (d.events since (d.sync s w).2.2).2 := by
  obtain ⟨ids, v, -, -, hsync⟩ := hd.sync_eq s w
  rw [watch, hsync]
  simp only
  generalize (d.inspectAll ids s v).2.2 = u
  obtain ⟨-, stream, hstream, hevents⟩ := hd.events since u
  rw [show d.events since u = (some stream, (d.events since u).2) from Prod.ext hstream rfl, ← hevents]

/-- When all events have been handled, the store knows of every container what the daemon has. -/
theorem Observes.reflects_watch (hd : d.Observes h now start) (hh : h.Told) (since : Instant)
    {s : Store} (hs : s.Keyed) {w : σ} (hw : start ≤ now w)
    (htimely : d.Timely h now start (d.sync s w).2.1 (d.events since (d.sync s w).2.2).2)
    (cid : String) : (d.watch since s w).2.1.Reflects cid (h.condition? cid) := by
  rw [hd.snd_watch]
  by_cases htidings : History.tidings (h.drop start) cid = []
  · -- nothing more is told of the container: the sync has seen what it is
    rw [Store.reflects_congr (d.lookup_follow_of_tells?_eq_none htidings _ _)]
    exact hd.reflects_sync hs fun m hm => hh.condition?_take htidings (Nat.le_trans hw hm)
  · -- the last event about the container decides
    obtain ⟨past, e, later, t, rfl, hstart, he, hlater⟩ := History.exists_last_event_since htidings
    obtain rfl := hh.tells?_last he hlater
    have hevents : History.events ((past ++ .event e :: later).drop start) =
        History.events (past.drop start) ++ [e] ++ History.events later := by
      rw [List.drop_append_of_le_length hstart, History.events_append, List.append_assoc]
      rfl
    have hhandle : ∀ s w, d.follow (History.events (past.drop start) ++ [e]) s w =
        d.handle (d.follow (History.events (past.drop start)) s w).1 e
          (d.follow (History.events (past.drop start)) s w).2 :=
      fun s w => d.follow_append _ [e] s w
    rw [hevents, follow_append, Store.reflects_congr (d.lookup_follow_of_tells?_eq_none hlater _ _),
      hhandle]
    refine hd.reflects_handle he fun hstarts => ?_
    rw [← hhandle]
    exact hh.condition?_take (k := past.length + 1) (by simpa using hlater)
      (htimely past e later cid rfl hstart hstarts)

theorem Observes.keyed_watch (hd : d.Observes h now start) (since : Instant) {s : Store}
    (hs : s.Keyed) (w : σ) : (d.watch since s w).2.1.Keyed := by
  rw [hd.snd_watch]
  refine d.keyed_follow _ ?_ _
  obtain ⟨ids, v, -, -, hsync⟩ := hd.sync_eq s w
  rw [hsync]
  exact (d.keyed_inspectAll ids hs v).retain _

end Daemon

/-- A watch that begins at some point of a history, with any containers in the store, each under its own id, and
handles every event since then, leaves in the store exactly the containers that the daemon has in the end, each
in the state and with the process that its inspection would be recorded with. -/
theorem watch_converges {σ : Type} (d : Daemon σ) (h : History) (now : σ → Nat) (start : Nat)
    (since : Instant) (s : Store) (w : σ) (hh : h.Told) (hd : d.Observes h now start) (hs : s.Keyed)
    (hw : start ≤ now w)
    (htimely : d.Timely h now start (d.sync s w).2.1 (d.events since (d.sync s w).2.2).2) :
    let after := (d.watch since s w).2.1
    after.Keyed ∧ ∀ id,
      (h.condition? id = none → after.lookup id = none) ∧
      ∀ c, h.condition? id = some c → ∃ found, after.lookup id = some found ∧
        ∀ i : Inspection, i.id = some id → i.Shows c →
          ∃ record, i.record? = some record ∧ found.state = record.state ∧ found.pid = record.pid := by
  intro after
  refine ⟨hd.keyed_watch since hs w, fun id => ?_⟩
  have hreflects : (after.lookup id).map _ = (h.condition? id).map _ :=
    hd.reflects_watch hh since hs hw htimely id
  constructor
  · intro hgone
    rw [hgone] at hreflects
    exact Option.map_eq_none_iff.mp hreflects
  · intro c hc
    rw [hc] at hreflects
    obtain ⟨found, hfound, hrecorded⟩ := Option.map_eq_some_iff.mp hreflects
    obtain ⟨hstate, hpid⟩ := Prod.mk.inj hrecorded
    exact ⟨found, hfound, fun i hid hshows =>
      ⟨_, Inspection.record?_of_shows hid hshows, hstate, hpid⟩⟩

/-- A container that is found running is taken for created again, and in the end for running. -/
theorem watch_converges_after_replay :
    let event (action : String) : Event :=
      { type := some .container, action := some action, actor := some { id := some "abc" } }
    let h : History := [
      .change "abc" (some .created), .event (event "create"),
      .change "abc" (some (.running 7 (by decide))), .event (event "start")]
    let d : Daemon Unit := {
      list := fun w => (some [some "abc"], w)
      inspect := fun id w =>
        (if id = "abc" then some { id := some id, status := some .running, pid := some 7 } else none, w)
      events := fun _ w => (some ⟨h.events, .ended⟩, w) }
    let since : Instant := ⟨⟨1970, 1, 1, by decide⟩, ⟨0, 0, 0, 0, by decide⟩⟩
    h.Told ∧ d.Observes h (fun _ => 4) 1 ∧
      ∃ found, (d.watch since {} ()).2.1.lookup "abc" = some found ∧ found.state = .running ∧
        found.pid = 7 := by
  intro event h d since
  have htells : ∀ action t id, Transition.ofAction? action = some t →
      (event action).tells? id = if "abc" = id then some t else none := by
    intro action t id ht
    simp [event, Event.tells?, Event.change?, ht, Option.filter]
  have hcreate := fun id => htells "create" .create id (by decide)
  have hstart := fun id => htells "start" .start id (by decide)
  have htold : h.Told := by
    constructor
    · intro k id
      rcases k with _ | _ | _ | _ | k <;>
        by_cases hid : "abc" = id <;>
        simp [h, History.tidings, History.events, History.changes, hcreate, hstart, hid, Transition.into]
    · intro id
      by_cases hid : "abc" = id <;>
        simp [h, History.tidings, History.events, History.changes, hcreate, hstart, hid, Transition.into]
  have hcondition : ∀ id, h.condition? id =
      if "abc" = id then some (.running 7 (by decide)) else none := by
    intro id
    simp only [h, History.condition?, List.foldl]
    split <;> rfl
  have hobserves : d.Observes h (fun _ => 4) 1 := by
    refine ⟨fun w => ⟨Nat.le_refl _, _, rfl, fun id => ?_⟩, fun id w => ⟨Nat.le_refl _, ?_⟩,
      fun _ _ => ⟨Nat.le_refl _, _, rfl, rfl⟩⟩
    · rw [show h.take 4 = h from rfl, hcondition]
      by_cases hid : "abc" = id
      · simp [hid]
      · rw [if_neg hid]
        simpa using Ne.symm hid
    · rw [show h.take 4 = h from rfl, hcondition]
      by_cases hid : "abc" = id
      · simp only [if_pos hid]
        exact ⟨_, if_pos hid.symm, rfl, rfl, rfl⟩
      · simp only [if_neg hid]
        exact if_neg (Ne.symm hid)
  have htimely : d.Timely h (fun _ => 4) 1 (d.sync {} ()).2.1 (d.events since (d.sync {} ()).2.2).2 := by
    intro past e later id hsplit _ _
    have hlength : 4 = past.length + (later.length + 1) :=
      (congrArg List.length hsplit).trans List.length_append
    show past.length < 4
    omega
  refine ⟨htold, hobserves, ?_⟩
  obtain ⟨-, hwatch⟩ := watch_converges d h (fun _ => 4) 1 since {} () htold hobserves
    Store.keyed_empty (by decide) htimely
  obtain ⟨found, hfound, hrecorded⟩ := (hwatch "abc").2 _ (hcondition "abc")
  let shown : Inspection := { id := some "abc", status := some .running, pid := some 7 }
  obtain ⟨record, hrecord, hstate, hpid⟩ := hrecorded shown rfl ⟨rfl, rfl⟩
  obtain rfl := Option.some.inj hrecord
  exact ⟨found, hfound, hstate, hpid⟩

end TrafficShaping
