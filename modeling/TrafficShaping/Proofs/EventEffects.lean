import TrafficShaping.Proofs.SyncOutcome
import TrafficShaping.Proofs.Words

/-!
# What an event changes

An event is read in layers, each of which may be missing or say that the event is of no concern: its type, its
actor, the id of the actor and the action, of which only the word before a colon counts. What is left is at most
one step in the life of one container (`Event.step?`), and handling the event is to take that step. So an event
changes at most what is known about its actor, and there are only so many reasons for it to change nothing
(`Event.Silent`).

A start is the one step that takes an inspection, which need not agree with the event. Both a start and a sync
make a record of the inspection, and what they store of the state and the process is what that record says. But a
start stores it under the id of the actor, and a sync under the id that the inspection carries, so the two agree
where these are the same.
-/

namespace TrafficShaping

open Daemon (Change Event Inspection Transition)

namespace Daemon

/-! ## Actions -/

/-- The word that an action consists of, without the details after a colon. -/
def verb (action : String) : String := Text.trim (String.ofList (action.toList.takeWhile (· ≠ ':')))

def startVerbs : List String := ["start", "restart", "unpause"]

def verbs : List String := startVerbs ++ ["create", "die", "stop", "pause", "destroy"]

theorem Transition.ofAction?_eq_none_iff {action : String} :
    Transition.ofAction? action = none ↔ verb action ∉ verbs := by
  rw [ofAction?, ← verb]
  split <;> simp_all [verbs, startVerbs]

theorem Transition.ofAction?_eq_start_iff {action : String} :
    Transition.ofAction? action = some .start ↔ verb action ∈ startVerbs := by
  rw [ofAction?, ← verb]
  split <;> simp_all [startVerbs]

theorem prefix_verb {start : String} (hcolon : ':' ∉ start.toList)
    (htrimmed : Text.Trimmed start.toList) (rest : String) :
    start.toList <+: (verb (start ++ rest)).toList := by
  have hhead : ∀ c ∈ start.toList, decide (c ≠ ':') := fun c hc =>
    decide_eq_true (ne_of_mem_of_not_mem hc hcolon)
  rw [verb, Text.trim, String.toList_ofList, String.toList_ofList, String.toList_append,
    List.takeWhile_append_of_pos hhead]
  exact htrimmed.prefix_trimChars _

/-- How actions begin that are frequent and say nothing about the life of a container. -/
def idleStarts : List String := ["kill", "exec_", "health_status"]

theorem verb_not_mem_of_idle {start : String} (h : start ∈ idleStarts) (rest : String) :
    verb (start ++ rest) ∉ verbs := by
  have hcolon : ∀ start ∈ idleStarts, ':' ∉ start.toList := by decide
  have hends : ∀ start ∈ idleStarts, start.toList.head?.all (!Text.isBlank ·) ∧
      start.toList.getLast?.all (!Text.isBlank ·) := by decide
  have hother : ∀ start ∈ idleStarts, ∀ word ∈ verbs, ¬ start.toList <+: word.toList := by decide
  obtain ⟨hhead, hlast⟩ := hends start h
  have htrimmed : Text.Trimmed start.toList := {
    head := fun c hc => by simpa [hc] using hhead
    last := fun c hc => by simpa [hc] using hlast }
  exact fun hmem => hother start h _ hmem (prefix_verb (hcolon start h) htrimmed rest)

/-! ## Steps -/

/-- The name that an event gives its actor. -/
def Actor.name? (a : Actor) : Option String := (a.attributes.bind (·.get? "name")).map ("/" ++ ·)

theorem Event.change?_eq_some_iff {e : Event} {c : Change} :
    e.change? = some c ↔ (∀ t, e.type = some t → t = .container) ∧
      ∃ actor action, e.actor = some actor ∧ actor.id = some c.id ∧ e.action = some action ∧
        Transition.ofAction? action = some c.transition ∧ actor.name? = c.name := by
  have htype : ¬ e.type.any (· ≠ .container) ↔ ∀ t, e.type = some t → t = .container := by
    cases e.type <;> simp
  rw [change?, ← htype]
  constructor
  · intro h
    split at h
    · cases h
    · next hcontainer =>
        obtain ⟨actor, hactor, h⟩ := Option.bind_eq_some_iff.mp h
        obtain ⟨transition, htransition, h⟩ := Option.bind_eq_some_iff.mp h
        obtain ⟨id, hid, h⟩ := Option.bind_eq_some_iff.mp h
        obtain ⟨action, haction, htransition⟩ := Option.bind_eq_some_iff.mp htransition
        cases h
        exact ⟨hcontainer, actor, action, hactor, hid, haction, htransition, rfl⟩
  · rintro ⟨hcontainer, actor, action, hactor, hid, haction, htransition, hname⟩
    rw [if_neg hcontainer]
    simp only [hactor, haction, hid, Option.bind_some, Option.bind_eq_bind, htransition]
    exact congrArg (fun name => some { c with name }) hname

theorem Event.id_of_step? {e : Event} {inspect : String → Option Inspection} {life : LifeEvent}
    (h : e.step? inspect = some life) : ∃ actor, e.actor = some actor ∧ actor.id = some life.id := by
  obtain ⟨c, hchange, hid⟩ := change?_of_step? h
  obtain ⟨-, actor, -, hactor, hactorId, -⟩ := change?_eq_some_iff.mp hchange
  exact ⟨actor, hactor, hid ▸ hactorId⟩

theorem Event.step?_of_running {e : Event} {inspect : String → Option Inspection} {actor : Actor}
    {id action : String} {i : Inspection} {found : Container}
    (htype : e.type = none ∨ e.type = some .container) (hactor : e.actor = some actor)
    (hid : actor.id = some id) (haction : e.action = some action) (hverb : verb action ∈ startVerbs)
    (hinspect : inspect id = some i) (hfound : i.record? = some found) (hrunning : found.state = .running) :
    e.step? inspect = some (.started id (found.name.or actor.name?) found.pid) := by
  have hcontainer : ∀ t, e.type = some t → t = .container := by
    intro t ht
    rcases htype with hnone | hsome
    · cases hnone.symm.trans ht
    · exact (Option.some.inj (hsome.symm.trans ht)).symm
  have hchange : e.change? = some ⟨.start, id, actor.name?⟩ := change?_eq_some_iff.mpr
    ⟨hcontainer, actor, action, hactor, hid, haction, Transition.ofAction?_eq_start_iff.mpr hverb, rfl⟩
  simp [step?, hchange, hinspect, hfound, hrunning, LifeState.isRunning]

/-- The reasons for an event to change nothing. -/
inductive Event.Silent (e : Event) (inspect : String → Option Inspection) : Prop where
  | otherObject {type : ObjectType} (h : e.type = some type) (hother : type ≠ .container)
  | noActor (h : e.actor = none)
  | noId {actor : Actor} (h : e.actor = some actor) (hid : actor.id = none)
  | noAction (h : e.action = none)
  | otherAction {action : String} (h : e.action = some action) (hother : verb action ∉ verbs)
  | notRunning {actor : Actor} {id action : String} (h : e.actor = some actor) (hid : actor.id = some id)
      (haction : e.action = some action) (hstart : verb action ∈ startVerbs)
      (hinspect : ∀ i found, inspect id = some i → i.record? = some found → found.state ≠ .running)

theorem Event.step?_eq_none_iff {e : Event} {inspect : String → Option Inspection} :
    e.step? inspect = none ↔ e.Silent inspect := by
  constructor
  · -- what is missing of the event, layer after layer, would be a reason
    intro hstep
    by_contra hspeaks
    have htype : ∀ t, e.type = some t → t = .container :=
      fun t ht => by_contra fun hother => hspeaks (.otherObject ht hother)
    obtain ⟨actor, hactor⟩ := Option.ne_none_iff_exists'.mp fun h => hspeaks (.noActor h)
    obtain ⟨id, hid⟩ := Option.ne_none_iff_exists'.mp fun h => hspeaks (.noId hactor h)
    obtain ⟨action, haction⟩ := Option.ne_none_iff_exists'.mp fun h => hspeaks (.noAction h)
    obtain ⟨transition, htransition⟩ := Option.ne_none_iff_exists'.mp fun h =>
      hspeaks (.otherAction haction (Transition.ofAction?_eq_none_iff.mp h))
    have hchange : e.change? = some ⟨transition, id, actor.name?⟩ :=
      change?_eq_some_iff.mpr ⟨htype, actor, action, hactor, hid, haction, htransition, rfl⟩
    rw [step?, hchange, Option.bind_some] at hstep
    cases transition with
    | create => cases hstep
    | stop => cases hstep
    | destroy => cases hstep
    | start =>
        refine hspeaks (.notRunning hactor hid haction
          (Transition.ofAction?_eq_start_iff.mp htransition) fun i found hi hfound hrunning => ?_)
        simp [hi, hfound, hrunning, LifeState.isRunning] at hstep
  · intro hsilent
    refine Option.bind_eq_none_iff.mpr fun c hchange => ?_
    obtain ⟨htype, actor, action, hactor, hid, haction, htransition, -⟩ := change?_eq_some_iff.mp hchange
    cases hsilent with
    | otherObject h hother => exact absurd (htype _ h) hother
    | noActor h => cases h.symm.trans hactor
    | noId h hnone =>
        obtain rfl := Option.some.inj (h.symm.trans hactor)
        cases hnone.symm.trans hid
    | noAction h => cases h.symm.trans haction
    | otherAction h hother =>
        obtain rfl := Option.some.inj (h.symm.trans haction)
        cases (Transition.ofAction?_eq_none_iff.mpr hother).symm.trans htransition
    | notRunning h hid' haction' hstart hinspect =>
        obtain rfl := Option.some.inj (h.symm.trans hactor)
        obtain rfl := Option.some.inj (hid'.symm.trans hid)
        obtain rfl := Option.some.inj (haction'.symm.trans haction)
        have hstarts := (Transition.ofAction?_eq_start_iff.mpr hstart).symm.trans htransition
        rw [← Option.some.inj hstarts]
        refine Option.map_eq_none_iff.mpr (Option.filter_eq_none_iff.mpr fun found hfound hrunning => ?_)
        obtain ⟨i, hi, hfound⟩ := Option.bind_eq_some_iff.mp hfound
        exact hinspect i found hi hfound (LifeState.isRunning_iff.mp hrunning)

/-- A sync stores the record of an inspection that finds its container running, if the inspection is of the
container that was asked for. -/
theorem Lists.lookup_sync {σ : Type} {d : Daemon σ} {w : σ} {answers : List (String × Option Inspection)}
    (h : d.Lists w answers) {s : Store} (hs : s.Keyed) {id : String} {i : Inspection} {found : Container}
    (hmem : (id, some i) ∈ answers) (hown : ∀ k j, (k, some j) ∈ answers → k ≠ id → j.id ≠ some id)
    (hfound : i.record? = some found) (hrunning : found.state = .running) :
    (d.sync s w).2.1.lookup id = if i.id = some id then some found else s.lookup id := by
  have hthere : found.state ≠ .destroyed := by
    rw [hrunning]
    decide
  rw [(h.sync_eq s).2, Store.lookup_settle_of_record hs h.nodup hown hmem hfound hthere,
    Inspection.id_of_record? hfound]
  simp only [Option.some_inj]

end Daemon

/-- An event changes at most what is known about its actor, and for any of the listed reasons nothing at all; that
a container was killed, that something was executed in it and how healthy it is never counts. A start that counts
stores the state and the process of the record that a sync makes of the same inspection, and the name of that
record, or else the one in the event, or else the one known before. Where the inspection carries the id that was
asked for, this record is what a sync stores for that id; where it carries another id, a sync leaves what is known
about that id as it was. -/
theorem handle_changes_actor_only {σ : Type} (d : Daemon σ) (s : Store) (e : Event) (w : σ) :
    let after := (d.handle s e w).1
    (∀ id, (∀ actor, e.actor = some actor → actor.id ≠ some id) → after.lookup id = s.lookup id) ∧
    (e.Silent (fun id => (d.inspect id w).1) → after = s) ∧
    (∀ start ∈ Daemon.idleStarts, ∀ rest, e.action = some (start ++ rest) → after = s) ∧
    ∀ actor id action i found, (e.type = none ∨ e.type = some .container) → e.actor = some actor →
      actor.id = some id → e.action = some action → Daemon.verb action ∈ Daemon.startVerbs →
      (d.inspect id w).1 = some i → i.record? = some found → found.state = .running →
      (∃ stored, after.lookup id = some stored ∧ stored.state = found.state ∧ stored.pid = found.pid ∧
        stored.name = (found.name.or actor.name?).or ((s.lookup id).bind (·.name))) ∧
      ∀ {τ : Type} (d' : Daemon τ) (w' : τ) (s' : Store) answers, s'.Keyed → d'.Lists w' answers →
        (id, some i) ∈ answers → (∀ k j, (k, some j) ∈ answers → k ≠ id → j.id ≠ some id) →
        (i.id = some id → (d'.sync s' w').2.1.lookup id = some found) ∧
        (i.id ≠ some id → (d'.sync s' w').2.1.lookup id = s'.lookup id) := by
  intro after
  have hafter : after = (e.step? fun id => (d.inspect id w).1).elim s s.apply := d.fst_handle s e w
  have hsilent : e.Silent (fun id => (d.inspect id w).1) → after = s := by
    intro h
    rw [hafter, Event.step?_eq_none_iff.mpr h]
    rfl
  refine ⟨?_, hsilent, ?_, ?_⟩
  · intro id hother
    rw [hafter]
    cases hstep : e.step? fun id => (d.inspect id w).1 with
    | none => rfl
    | some life =>
        obtain ⟨actor, hactor, hid⟩ := Event.id_of_step? hstep
        have hne : id ≠ life.id := fun heq => hother actor hactor (heq ▸ hid)
        show (s.apply life).lookup id = _
        rw [Store.lookup_apply, if_neg hne]
  · intro start hstart rest haction
    exact hsilent (.otherAction haction (Daemon.verb_not_mem_of_idle hstart rest))
  · intro actor id action i found htype hactor hid haction hverb hinspect hfound hrunning
    have hstep : e.step? (fun id => (d.inspect id w).1) =
        some (.started id (found.name.or actor.name?) found.pid) :=
      Event.step?_of_running htype hactor hid haction hverb hinspect hfound hrunning
    refine ⟨?_, fun d' w' s' answers hs' hlists hmem hown => ?_⟩
    · let started : LifeEvent := .started id (found.name.or actor.name?) found.pid
      have hlookup : after.lookup id = some (started.applyTo ((s.lookup id).getD { id })) := by
        rw [hafter, hstep]
        exact (s.lookup_apply started id).trans (if_pos rfl)
      refine ⟨_, hlookup, hrunning.symm, rfl, ?_⟩
      show (found.name.or actor.name?).or _ = _
      cases s.lookup id <;> rfl
    · have hsync := hlists.lookup_sync hs' hmem hown hfound hrunning
      exact ⟨fun hsame => hsync.trans (if_pos hsame), fun hne => hsync.trans (if_neg hne)⟩

/-- A daemon that lists one container and answers with another one, which is running. A start stores that process
for the listed container, and a sync stores nothing for it. -/
theorem start_differs_from_sync :
    let d : Daemon Unit := {
      list := fun w => (some [some "abc"], w)
      inspect := fun _ w => (some { id := some "def", status := some .running, pid := some 7 }, w)
      events := fun _ w => (none, w) }
    let e : Event := { type := some .container, action := some "start", actor := some { id := some "abc" } }
    (d.handle {} e ()).1.lookup "abc" = some { id := "abc", pid := 7, state := .running } ∧
      (d.sync {} ()).1.isOk ∧ (d.sync {} ()).2.1.lookup "abc" = none := by
  decide

end TrafficShaping
