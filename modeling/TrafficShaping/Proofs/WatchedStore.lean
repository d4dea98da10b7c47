import TrafficShaping.Daemon.Watch
import TrafficShaping.Proofs.DictLookup

/-!
# What watching can make of the store

Whatever a daemon answers, and however its events and its answers contradict each other, two things stay
true of every record in the store: it stands under the id of its own container, and it has a process exactly
if it is running.

The first one is what lets a snapshot, which has lost the keys, stand for the store. It is not obvious of an
event, since the record that an event changes keeps the id that it had: it holds because the event looked
the record up under its own id. The second one comes from the only place where a process can enter, an
inspection. A record made of an inspection is running only with a process, and an event starts a container
only on the word of such a record.

All that handling an event does is said once: it takes the step in a container's life that the event tells by
the inspection made for it, if there is one (`Event.step?`, `fst_handle`).
-/

namespace TrafficShaping

/-! ## Look-ups -/

/-- What an event makes of what is known about its container. -/
def LifeEvent.entry (e : LifeEvent) (before : Option Container) : Option Container :=
  match e with
  | .destroyed _ => none
  | e => some (e.applyTo (before.getD { id := e.id }))

namespace Store

theorem lookup_upsert (s : Store) (c : Container) (id : String) :
    (s.upsert c).lookup id = if id = c.id then some c else s.lookup id :=
  s.records.get?_insert c.id id c

theorem lookup_apply (s : Store) (e : LifeEvent) (id : String) :
    (s.apply e).lookup id = if id = e.id then e.entry (s.lookup e.id) else s.lookup id := by
  cases e with
  | destroyed eid => exact s.records.get?_erase eid id
  | created eid name => exact s.records.get?_insert eid id _
  | started eid name pid => exact s.records.get?_insert eid id _
  | stopped eid => exact s.records.get?_insert eid id _

theorem lookup_retain (s : Store) (keep : Container → Bool) (id : String) :
    (s.retain keep).lookup id = (s.lookup id).filter keep :=
  s.records.get?_filter (fun _ => keep) id

end Store

theorem LifeEvent.entry_eq_some {e : LifeEvent} {before : Option Container} {c : Container}
    (h : e.entry before = some c) : c = e.applyTo (before.getD { id := e.id }) := by
  cases e with
  | destroyed id => cases h
  | created id name => exact (Option.some.inj h).symm
  | started id name pid => exact (Option.some.inj h).symm
  | stopped id => exact (Option.some.inj h).symm

/-! ## Records and their ids -/

namespace Store

/-- Every record stands under the id of its container. -/
def Keyed (s : Store) : Prop := ∀ id c, s.lookup id = some c → c.id = id

theorem keyed_empty : Keyed {} := by
  intro id c h
  cases h

theorem Keyed.upsert {s : Store} (h : s.Keyed) (c : Container) : (s.upsert c).Keyed := by
  intro id found hfound
  rw [lookup_upsert] at hfound
  split at hfound
  · next hid =>
      obtain rfl := Option.some.inj hfound
      exact hid.symm
  · exact h id found hfound

theorem Keyed.retain {s : Store} (h : s.Keyed) (keep : Container → Bool) : (s.retain keep).Keyed := by
  intro id c hc
  rw [lookup_retain, Option.filter_eq_some_iff] at hc
  exact h id c hc.1

theorem Keyed.apply {s : Store} (h : s.Keyed) (e : LifeEvent) : (s.apply e).Keyed := by
  intro id c hc
  rw [lookup_apply] at hc
  split at hc
  · next hid =>
      rw [LifeEvent.entry_eq_some hc, hid]
      show ((s.lookup e.id).getD { id := e.id }).id = e.id
      cases hbefore : s.lookup e.id with
      | none => rfl
      | some before => exact h e.id before hbefore
  · exact h id c hc

theorem mem_snapshot_iff {s : Store} (h : s.Keyed) {c : Container} :
    c ∈ s.snapshot ↔ s.lookup c.id = some c := by
  rw [snapshot, Dict.mem_values_iff]
  constructor
  · rintro ⟨id, hc⟩
    rw [h id c hc]
    exact hc
  · exact fun hc => ⟨c.id, hc⟩

theorem map_id_snapshot {s : Store} (h : s.Keyed) : s.snapshot.map (·.id) = s.records.keys := by
  rw [snapshot, Dict.values, Dict.keys, List.map_map]
  refine List.map_congr_left ?_
  rintro ⟨id, c⟩ hmem
  exact h id c (Dict.mem_entries_iff.mp hmem)

theorem nodup_ids_snapshot {s : Store} (h : s.Keyed) : (s.snapshot.map (·.id)).Nodup := by
  rw [map_id_snapshot h]
  exact s.records.nodup_keys

end Store

/-! ## Records and their processes -/

theorem LifeState.isRunning_iff {state : LifeState} : state.isRunning ↔ state = .running := by
  cases state <;> simp [isRunning]

/-- Whether a container has a process exactly if it is running. -/
def Container.Sound (c : Container) : Prop := c.pid ≠ 0 ↔ c.state.isRunning

theorem LifeEvent.sound_entry {e : LifeEvent} (he : e.pid ≠ 0 ↔ e.state.isRunning)
    {before : Option Container} {c : Container} (h : e.entry before = some c) : c.Sound := by
  rw [LifeEvent.entry_eq_some h]
  exact he

theorem Daemon.Inspection.sound_of_record? {i : Daemon.Inspection} {c : Container}
    (h : i.record? = some c) : c.Sound := by
  obtain ⟨id, -, rfl⟩ := Option.map_eq_some_iff.mp h
  show (if i.state.isRunning then i.process else 0) ≠ 0 ↔ i.state.isRunning
  cases hrunning : i.state.isRunning with
  | false => simp
  | true =>
      have hprocess : i.process ≠ 0 := by
        intro hzero
        unfold state at hrunning
        split at hrunning <;> simp [hzero, LifeState.isRunning] at hrunning
      simpa using hprocess

namespace Store

/-- Every record stands under its id and has a process exactly if it is running. -/
structure Proper (s : Store) : Prop where
  keyed : s.Keyed
  sound : ∀ id c, s.lookup id = some c → c.Sound

theorem proper_empty : Proper {} where
  keyed := keyed_empty
  sound := by
    intro id c h
    cases h

theorem Proper.upsert {s : Store} (h : s.Proper) {c : Container} (hc : c.Sound) :
    (s.upsert c).Proper where
  keyed := h.keyed.upsert c
  sound := by
    intro id found hfound
    rw [lookup_upsert] at hfound
    split at hfound
    · obtain rfl := Option.some.inj hfound
      exact hc
    · exact h.sound id found hfound

theorem Proper.retain {s : Store} (h : s.Proper) (keep : Container → Bool) :
    (s.retain keep).Proper where
  keyed := h.keyed.retain keep
  sound := by
    intro id c hc
    rw [lookup_retain, Option.filter_eq_some_iff] at hc
    exact h.sound id c hc.1

theorem Proper.apply {s : Store} (h : s.Proper) {e : LifeEvent}
    (he : e.pid ≠ 0 ↔ e.state.isRunning) : (s.apply e).Proper where
  keyed := h.keyed.apply e
  sound := by
    intro id c hc
    rw [lookup_apply] at hc
    split at hc
    · exact LifeEvent.sound_entry he hc
    · exact h.sound id c hc

end Store

/-! ## Watching -/

namespace Daemon

variable {σ : Type}

theorem sound_of_record? {d : Daemon σ} {id : String} {w : σ} {c : Container}
    (h : (d.record? id w).1 = some c) : c.Sound := by
  obtain ⟨i, -, hrecord⟩ := Option.bind_eq_some_iff.mp h
  exact Inspection.sound_of_record? hrecord

theorem proper_inspectAll (d : Daemon σ) (ids : List String) {s : Store} (h : s.Proper) (w : σ) :
    (d.inspectAll ids s w).2.1.Proper := by
  induction ids generalizing s w with
  | nil => exact h
  | cons id ids ih =>
      rw [inspectAll]
      split
      · next w' _ => exact ih h w'
      · next c w' hrecord =>
          split
          · exact ih h w'
          · exact ih (h.upsert (sound_of_record? (by rw [hrecord]))) w'

theorem proper_sync (d : Daemon σ) {s : Store} (h : s.Proper) (w : σ) : (d.sync s w).2.1.Proper := by
  rw [sync]
  split
  · exact h
  · next ids w' _ => exact (d.proper_inspectAll (ids.filterMap id) h w').retain _

/-- A start asks for the record of the container, and counts if that says running. -/
theorem change_start (d : Daemon σ) (s : Store) (id : String) (name : Option String) (w : σ) :
    d.change s ⟨.start, id, name⟩ w =
      (((d.record? id w).1.filter (·.state.isRunning)).elim s fun found =>
        s.apply (.started id (found.name.or name) found.pid), (d.record? id w).2) := by
  rw [change]
  rcases d.record? id w with ⟨_ | found, v⟩
  · rfl
  · simp only [Option.filter]
    split <;> rfl

/-- What an event tells of a container's life, by the inspection that is made for it. -/
def Event.step? (e : Event) (inspect : String → Option Inspection) : Option LifeEvent :=
  e.change?.bind fun c =>
    match c.transition with
    | .create => some (.created c.id c.name)
    | .start => (((inspect c.id).bind Inspection.record?).filter (·.state.isRunning)).map fun found =>
        .started c.id (found.name.or c.name) found.pid
    | .stop => some (.stopped c.id)
    | .destroy => some (.destroyed c.id)

theorem fst_handle (d : Daemon σ) (s : Store) (e : Event) (w : σ) :
    (d.handle s e w).1 = (e.step? fun id => (d.inspect id w).1).elim s s.apply := by
  rw [handle, Event.step?]
  cases e.change? with
  | none => rfl
  | some c =>
      obtain ⟨transition, id, name⟩ := c
      cases transition with
      | create => rfl
      | stop => rfl
      | destroy => rfl
      | start =>
          show (d.change s _ w).1 = _
          rw [change_start]
          show Option.elim _ _ _ = Option.elim (Option.map _ (Option.filter _ (d.record? id w).1)) _ _
          cases (d.record? id w).1.filter (·.state.isRunning) <;> rfl

theorem Event.change?_of_step? {e : Event} {inspect : String → Option Inspection} {life : LifeEvent}
    (h : e.step? inspect = some life) : ∃ c, e.change? = some c ∧ c.id = life.id := by
  obtain ⟨⟨transition, id, name⟩, hchange, hlife⟩ := Option.bind_eq_some_iff.mp h
  refine ⟨_, hchange, ?_⟩
  cases transition with
  | create => cases hlife; rfl
  | stop => cases hlife; rfl
  | destroy => cases hlife; rfl
  | start =>
      obtain ⟨found, -, rfl⟩ := Option.map_eq_some_iff.mp hlife
      rfl

/-- An event leaves a process exactly if it leaves its container running. -/
theorem Event.sound_step {e : Event} {inspect : String → Option Inspection} {life : LifeEvent}
    (h : e.step? inspect = some life) : life.pid ≠ 0 ↔ life.state.isRunning := by
  obtain ⟨⟨transition, id, name⟩, -, hlife⟩ := Option.bind_eq_some_iff.mp h
  cases transition with
  | create => cases hlife; exact iff_of_false (· rfl) Bool.false_ne_true
  | stop => cases hlife; exact iff_of_false (· rfl) Bool.false_ne_true
  | destroy => cases hlife; exact iff_of_false (· rfl) Bool.false_ne_true
  | start =>
      obtain ⟨found, hfound, rfl⟩ := Option.map_eq_some_iff.mp hlife
      obtain ⟨hrecord, hrunning⟩ := Option.filter_eq_some_iff.mp hfound
      obtain ⟨i, -, hrecord⟩ := Option.bind_eq_some_iff.mp hrecord
      exact iff_of_true ((Inspection.sound_of_record? hrecord).mpr hrunning) rfl

theorem proper_handle (d : Daemon σ) {s : Store} (h : s.Proper) (e : Event) (w : σ) :
    (d.handle s e w).1.Proper := by
  rw [fst_handle]
  cases hstep : e.step? fun id => (d.inspect id w).1 with
  | none => exact h
  | some life => exact h.apply (Event.sound_step hstep)

end Daemon

/-- The stores that watching can lead to, from the empty one. Every step may meet another daemon. -/
inductive Store.Watched : Store → Prop
  | empty : Watched {}
  | sync {σ : Type} {s : Store} (d : Daemon σ) (w : σ) (h : Watched s) : Watched (d.sync s w).2.1
  | handle {σ : Type} {s : Store} (d : Daemon σ) (e : Daemon.Event) (w : σ) (h : Watched s) :
      Watched (d.handle s e w).1

theorem Store.Watched.proper {s : Store} (h : s.Watched) : s.Proper := by
  induction h with
  | empty => exact Store.proper_empty
  | sync d w _ ih => exact d.proper_sync ih w
  | handle d e w _ ih => exact d.proper_handle ih e w

end TrafficShaping
