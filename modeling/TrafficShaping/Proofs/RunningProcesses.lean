import TrafficShaping.Proofs.WatchedStore
import Mathlib.Data.List.Induction

/-!
# Whose process a running container has

The process of a running container is what a control acts on, so it has to be the one that the daemon named
and no other. It comes from an inspection, whose number may be anything that fits into 64 bits, and it
reaches the store in two ways: a sync puts whole records in, and an event starts a container on the word of
an inspection made for it. Both can leave a container running, both can end that, and a stop must not leave
the old process behind.

So a run of watching is looked at together with the inspections in it that found a container running. What
the store knows of a container after the run is attested by the last of them: if it is running, its process
is that inspection's, number for number. A single step shows this of any store in which it held before,
since whatever else a step does to a container leaves it without a process.
-/

namespace TrafficShaping

open Daemon (Event Inspection)

/-! ## Inspections of a run -/

namespace Daemon

variable {σ : Type}

/-- What the inspections of listed containers answer, one after the other. Those that fail are left out. -/
def inspections (d : Daemon σ) : List String → σ → List Inspection
  | [], _ => []
  | id :: ids, w => (d.inspect id w).1.toList ++ d.inspections ids (d.inspect id w).2

end Daemon

/-- What a sync makes of an inspection. -/
def Store.note (s : Store) (i : Inspection) : Store :=
  match i.record? with
  | some c => if c.state = .destroyed then s else s.upsert c
  | none => s

/-- Inspections reach the store one by one, and nothing else does. -/
theorem Daemon.store_inspectAll {σ : Type} (d : Daemon σ) (ids : List String) (s : Store) (w : σ) :
    (d.inspectAll ids s w).2.1 = (d.inspections ids w).foldl Store.note s := by
  induction ids generalizing s w with
  | nil => rfl
  | cons id ids ih =>
      have hrecord : d.record? id w = ((d.inspect id w).1.bind Inspection.record?, (d.inspect id w).2) :=
        rfl
      rw [inspectAll, inspections, hrecord]
      cases hinspect : (d.inspect id w).1 with
      | none => exact ih s _
      | some i =>
          rw [Option.bind_some, Option.toList_some, List.singleton_append, List.foldl_cons, Store.note]
          cases hi : i.record? with
          | none => exact ih s _
          | some c =>
              simp only
              split
              · exact ih s _
              · exact ih _ _

/-- A step of watching, with the daemon that it meets and the state that this is in. -/
inductive WatchStep : Type 1 where
  | sync {σ : Type} (d : Daemon σ) (w : σ)
  | handle {σ : Type} (d : Daemon σ) (e : Event) (w : σ)

namespace WatchStep

def perform (s : Store) : WatchStep → Store
  | .sync d w => (d.sync s w).2.1
  | .handle d e w => (d.handle s e w).1

/-- The inspections in a step that find a container running, in order. A sync takes the container from the
inspection, and an event says itself which one it starts. -/
def sightings (id : String) : WatchStep → List Inspection
  | .sync d w =>
    match d.list w with
    | (none, _) => []
    | (some ids, w) =>
      (d.inspections (ids.filterMap fun listed => listed) w).filter fun i =>
        i.id = some id && i.state.isRunning
  | .handle d e w =>
    match e.change? with
    | some ⟨.start, started, _⟩ =>
      (d.inspect started w).1.toList.filter fun i =>
        started = id && i.id.isSome && i.state.isRunning
    | _ => []

/-- Where steps lead from the empty store. -/
def after (steps : List WatchStep) : Store := steps.foldl perform {}

theorem after_append_singleton (steps : List WatchStep) (o : WatchStep) :
    after (steps ++ [o]) = o.perform (after steps) := by
  rw [after, List.foldl_append]
  rfl

theorem watched_after (steps : List WatchStep) : (after steps).Watched := by
  induction steps using List.reverseRecOn with
  | nil => exact .empty
  | append_singleton steps o ih =>
      rw [after_append_singleton]
      cases o with
      | sync d w => exact .sync d w ih
      | handle d e w => exact .handle d e w ih

end WatchStep

/-! ## Records and the inspections that attest them -/

/-- The record of an inspection that finds its container running has the very process that the inspection
names. -/
theorem Daemon.Inspection.pid_of_record? {i : Inspection} {c : Container} (h : i.record? = some c)
    (hrunning : c.state.isRunning) : i.pid = some (c.pid.toNat : Int) := by
  obtain ⟨id, -, rfl⟩ := Option.map_eq_some_iff.mp h
  have halive : (if i.state.isRunning then i.process else 0) ≠ 0 :=
    (sound_of_record? h).mpr hrunning
  have hstate : i.state.isRunning := hrunning
  simp only [hstate, if_true] at halive ⊢
  rw [process] at halive ⊢
  split at halive
  · next n hpid =>
      rw [hpid]
      split at halive
      · next hbound =>
          simp only [if_pos hbound, UInt32.toNat_ofNat']
          rw [Nat.mod_eq_of_lt (by omega), Int.toNat_of_nonneg hbound.1]
      · exact absurd rfl halive
  · exact absurd rfl halive

/-- Whether a container still exists, and if it is running, has the process that it was last seen with. -/
structure Container.Attested (c : Container) (sightings : List Inspection) : Prop where
  present : c.state ≠ .destroyed
  process : c.state.isRunning → ∃ i, sightings.getLast? = some i ∧ i.pid = some (c.pid.toNat : Int)

/-- Whether what a store knows of a container is attested. -/
def Store.Attests (s : Store) (id : String) (sightings : List Inspection) : Prop :=
  ∀ c, s.lookup id = some c → c.Attested sightings

namespace Store.Attests

variable {s : Store} {id : String} {seen : List Inspection}

theorem congr {s' : Store} (h : s.Attests id seen) (hlookup : s'.lookup id = s.lookup id) :
    s'.Attests id seen := by
  intro c hc
  exact h c (hlookup ▸ hc)

theorem retain (h : s.Attests id seen) (keep : Container → Bool) : (s.retain keep).Attests id seen := by
  intro c hc
  rw [lookup_retain, Option.filter_eq_some_iff] at hc
  exact h c hc.1

/-- An event that starts nothing leaves no container running. -/
theorem apply_of_not_running (h : s.Attests id seen) {e : LifeEvent}
    (he : e.state.isRunning = false) : (s.apply e).Attests id seen := by
  intro c hc
  rw [lookup_apply] at hc
  split at hc
  · have hentry : c = e.applyTo ((s.lookup e.id).getD { id := e.id }) := LifeEvent.entry_eq_some hc
    have hstate : c.state = e.state := by
      rw [hentry]
      rfl
    refine ⟨fun hdestroyed => ?_, fun hrunning => ?_⟩
    · rw [hstate] at hdestroyed
      cases e with
      | destroyed eid => cases hc
      | created eid name | started eid name pid | stopped eid => cases hdestroyed
    · rw [hstate, he] at hrunning
      cases hrunning
  · exact h c hc

theorem note (h : s.Attests id seen) (i : Inspection) :
    (s.note i).Attests id (seen ++ [i].filter fun i => i.id = some id && i.state.isRunning) := by
  rw [Store.note]
  cases hrecord : i.record? with
  | none =>
      have hid : i.id = none := Option.map_eq_none_iff.mp hrecord
      rw [List.filter_cons_of_neg (by simp [hid]), List.filter_nil, List.append_nil]
      exact h
  | some found =>
      obtain ⟨fid, hfid, hfound⟩ := Option.map_eq_some_iff.mp hrecord
      have hstate : found.state = i.state := by rw [← hfound]
      have hkey : found.id = fid := by rw [← hfound]
      simp only
      by_cases hsighted : i.id = some id ∧ i.state.isRunning
      · rw [List.filter_cons_of_pos (by simpa using hsighted), List.filter_nil]
        have hpresent : found.state ≠ .destroyed := by
          intro hdestroyed
          rw [← hstate, hdestroyed] at hsighted
          cases hsighted.2
        rw [if_neg hpresent]
        intro c hc
        rw [lookup_upsert, if_pos (by rw [hkey]; exact Option.some.inj (hsighted.1.symm.trans hfid))] at hc
        obtain rfl := Option.some.inj hc
        exact ⟨hpresent, fun hrunning =>
          ⟨i, List.getLast?_concat, Inspection.pid_of_record? hrecord hrunning⟩⟩
      · rw [List.filter_cons_of_neg (by simpa using hsighted), List.filter_nil, List.append_nil]
        split
        · exact h
        · next hpresent =>
            intro c hc
            rw [lookup_upsert] at hc
            split at hc
            · next hid =>
                obtain rfl := Option.some.inj hc
                refine ⟨hpresent, fun hrunning => absurd ⟨?_, hstate ▸ hrunning⟩ hsighted⟩
                rw [hfid, hid, hkey]
            · exact h c hc

theorem foldl_note (h : s.Attests id seen) (is : List Inspection) :
    (is.foldl Store.note s).Attests id
      (seen ++ is.filter fun i => i.id = some id && i.state.isRunning) := by
  induction is generalizing s seen with
  | nil =>
      rw [List.filter_nil, List.append_nil]
      exact h
  | cons i is ih =>
      rw [List.foldl_cons, ← List.singleton_append (l := is), List.filter_append, ← List.append_assoc]
      exact ih (h.note i)

/-- A start that an inspection has confirmed leaves the container with the process of that inspection. -/
theorem apply_started (h : s.Attests id seen) {i : Inspection} {found : Container}
    (hrecord : i.record? = some found) (hrunning : found.state.isRunning) (started : String)
    (name : Option String) :
    (s.apply (.started started name found.pid)).Attests id
      (seen ++ [i].filter fun i => started = id && i.id.isSome && i.state.isRunning) := by
  have hconfirmed : i.id.isSome ∧ i.state.isRunning := by
    obtain ⟨fid, hfid, rfl⟩ := Option.map_eq_some_iff.mp hrecord
    exact ⟨by rw [hfid]; rfl, hrunning⟩
  intro c hc
  rw [lookup_apply] at hc
  split at hc
  · next hid =>
      have hid : started = id := hid.symm
      rw [List.filter_cons_of_pos (by simp [hid, hconfirmed]), List.filter_nil]
      obtain rfl := LifeEvent.entry_eq_some hc
      have hpid : i.pid = some (found.pid.toNat : Int) := Inspection.pid_of_record? hrecord hrunning
      exact { present := fun hdestroyed => by cases hdestroyed
              process := fun _ => ⟨i, List.getLast?_concat, hpid⟩ }
  · next hid =>
      have hid : started ≠ id := Ne.symm hid
      rw [List.filter_cons_of_neg (by simp [hid]), List.filter_nil, List.append_nil]
      exact h c hc

/-- A step keeps what it does not touch, and attests the rest by its own inspections. -/
theorem perform (h : s.Attests id seen) (o : WatchStep) :
    (o.perform s).Attests id (seen ++ o.sightings id) := by
  cases o with
  | sync d w =>
      rw [WatchStep.perform, WatchStep.sightings, Daemon.sync]
      rcases d.list w with ⟨_ | ids, w⟩
      · simpa using h
      · simp only [Daemon.store_inspectAll]
        exact (h.foldl_note _).retain _
  | handle d e w =>
      rw [WatchStep.perform, WatchStep.sightings, Daemon.handle]
      cases hchange : e.change? with
      | none => simpa using h
      | some c =>
          obtain ⟨transition, started, name⟩ := c
          simp only [Daemon.change]
          cases transition with
          | create => simpa using h.apply_of_not_running (e := .created started name) rfl
          | stop => simpa using h.apply_of_not_running (e := .stopped started) rfl
          | destroy => simpa using h.apply_of_not_running (e := .destroyed started) rfl
          | start =>
              have hrecord : d.record? started w =
                  ((d.inspect started w).1.bind Inspection.record?, (d.inspect started w).2) := rfl
              simp only [hrecord]
              cases hinspect : (d.inspect started w).1 with
              | none => simpa using h
              | some i =>
                  rw [Option.bind_some, Option.toList_some]
                  cases hi : i.record? with
                  | none =>
                      have hnone : i.id = none := Option.map_eq_none_iff.mp hi
                      simpa [hnone] using h
                  | some found =>
                      simp only
                      split
                      · next hrunning => exact h.apply_started hi hrunning started _
                      · next hrunning =>
                          have hstate : found.state = i.state := by
                            obtain ⟨fid, -, rfl⟩ := Option.map_eq_some_iff.mp hi
                            rfl
                          rw [hstate] at hrunning
                          simpa [hrunning] using h

end Store.Attests

theorem WatchStep.attests_after (steps : List WatchStep) (id : String) :
    (after steps).Attests id (steps.flatMap (·.sightings id)) := by
  induction steps using List.reverseRecOn with
  | nil =>
      intro c hc
      cases hc
  | append_singleton steps o ih =>
      rw [after_append_singleton, List.flatMap_append, List.flatMap_singleton]
      exact ih.perform o

/-- After any steps of watching, whatever daemons they met, a record stands under its own id and is of a
container that exists. It has a process exactly if it is running, and that is the process named by the last
inspection that found the container running. -/
theorem WatchStep.record_after (steps : List WatchStep) {id : String} {c : Container}
    (h : (after steps).lookup id = some c) :
    c.id = id ∧ c.state ≠ .destroyed ∧ (c.pid ≠ 0 ↔ c.state = .running) ∧
      (c.state = .running → ∃ i, (steps.flatMap (·.sightings id)).getLast? = some i ∧
        i.pid = some (c.pid.toNat : Int)) := by
  have hproper : (after steps).Proper := (watched_after steps).proper
  have hrunning : c.state.isRunning ↔ c.state = .running := LifeState.isRunning_iff
  obtain ⟨hpresent, hprocess⟩ := attests_after steps id c h
  refine ⟨hproper.keyed id c h, hpresent, ?_, fun hstate => hprocess (hrunning.mpr hstate)⟩
  rw [← hrunning]
  exact hproper.sound id c h

/-- A container is stopped by a sync that finds a process number too large for it, and started again by an
event as another process than the one it had before. -/
theorem WatchStep.record_after_restart :
    let d (pid : Int) : Daemon Unit := {
      list := fun w => (some [some "abc", none, some "def"], w)
      inspect := fun id w =>
        (if id = "abc" then some { id := some id, status := some .running, pid := some pid } else none, w)
      events := fun _ w => (none, w) }
    let start : Event :=
      { type := some .container, action := some "restart", actor := some { id := some "abc" } }
    let steps : List WatchStep :=
      [.sync (d 7) (), .sync (d 4294967303) (), .handle (d 4294967295) start ()]
    ∃ c, (after steps).lookup "abc" = some c ∧ c.state = .running ∧
      ∃ i, (steps.flatMap (·.sightings "abc")).getLast? = some i ∧ i.pid = some (c.pid.toNat : Int) ∧
        c.pid.toNat = 4294967295 := by
  intro d start steps
  let c : Container := { id := "abc", pid := 4294967295, state := .running }
  have hlookup : (after steps).lookup "abc" = some c := by decide
  obtain ⟨i, hlast, hpid⟩ := (record_after steps hlookup).2.2.2 rfl
  exact ⟨c, hlookup, rfl, i, hlast, hpid, by decide⟩

end TrafficShaping
