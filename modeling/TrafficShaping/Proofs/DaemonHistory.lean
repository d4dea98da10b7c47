import TrafficShaping.Daemon.Watch
import Mathlib.Data.List.Induction

/-!
# Histories of a daemon

What happens at a daemon, in order: a container gets into another condition, or the daemon tells of an event.
Every change of a container is told by an event of that container, and the events of one container come in
the order of its changes, each of them after its change. How long after is left open: other containers, and
the same one, may change on before an event is told, and events that bring about no transition may come at
any time.

So once nothing more is told of a container it does not change any more (`Told.condition?_take`), and the last
event about it tells what it has become (`Told.tells?_last`). Nothing else is needed of a history. In
particular a container may come back under an id that was gone.
-/

namespace TrafficShaping.Daemon

/-- What a container is like at the daemon for as long as the daemon has it. -/
inductive Condition where
  | created
  | running (pid : Pid) (alive : pid ≠ 0)
  | paused
  | exited

/-- The transition into a condition, or out of the daemon. -/
def Transition.into : Option Condition → Transition
  | some .created => .create
  | some (.running _ _) => .start
  | some .paused | some .exited => .stop
  | none => .destroy

/-- Whether an inspection shows a container in a condition. -/
def Inspection.Shows (i : Inspection) : Condition → Prop
  | .created => i.status = some .created
  | .running pid _ => i.status = some .running ∧ i.pid = some pid.toNat
  | .paused => i.status = some .paused
  | .exited => i.status = some .exited

/-- One thing that happens: a container gets into a condition, or is gone, or an event is told. -/
inductive Occurrence where
  | change (id : String) (condition : Option Condition)
  | event (e : Event)

/-- The transition that an event tells of a container. -/
def Event.tells? (e : Event) (id : String) : Option Transition :=
  (e.change?.filter (·.id = id)).map (·.transition)

abbrev History := List Occurrence

namespace History

/-- The condition of a container after all that has happened, if the daemon has it. -/
def condition? (h : History) (id : String) : Option Condition :=
  h.foldl (fun before o =>
    match o with
    | .change other c => if other = id then c else before
    | .event _ => before) none

/-- The transitions of a container, in order. -/
def changes (h : History) (id : String) : List Transition :=
  h.filterMap fun
    | .change other c => if other = id then some (.into c) else none
    | .event _ => none

/-- The events that are told, in order. -/
def events (h : History) : List Event :=
  h.filterMap fun
    | .change _ _ => none
    | .event e => some e

/-- The transitions of a container that are told, in order. -/
def tidings (h : History) (id : String) : List Transition := h.events.filterMap (·.tells? id)

/-- Whether every change of a container is told, in order, and no earlier than it happens. -/
structure Told (h : History) : Prop where
  inTime : ∀ k id, tidings (h.take k) id <+: changes (h.take k) id
  complete : ∀ id, h.tidings id = h.changes id

theorem changes_append (h g : History) (id : String) :
    changes (h ++ g) id = changes h id ++ changes g id := List.filterMap_append

theorem events_append (h g : History) : events (h ++ g) = events h ++ events g :=
  List.filterMap_append

theorem tidings_append (h g : History) (id : String) :
    tidings (h ++ g) id = tidings h id ++ tidings g id := by
  rw [tidings, events_append, List.filterMap_append]
  rfl

/-- What does not change a container leaves its condition as it was. -/
theorem condition?_append_of_changes_eq_nil {g : History} {id : String} (hg : changes g id = [])
    (h : History) : condition? (h ++ g) id = condition? h id := by
  induction g using List.reverseRecOn with
  | nil => rw [List.append_nil]
  | append_singleton g o ih =>
      rw [changes_append, List.append_eq_nil_iff] at hg
      rw [← List.append_assoc, condition?, List.foldl_append]
      cases o with
      | event e => exact ih hg.1
      | change other c =>
          have hother : other ≠ id := by
            rintro rfl
            simp [changes] at hg
          show (if other = id then c else condition? (h ++ g) id) = _
          rw [if_neg hother]
          exact ih hg.1

/-- The last transition of a container leads to the condition that it is in. -/
theorem getLast?_changes {h : History} {id : String} {t : Transition}
    (ht : (changes h id).getLast? = some t) : t = .into (condition? h id) := by
  induction h using List.reverseRecOn with
  | nil => cases ht
  | append_singleton h o ih =>
      rw [changes_append] at ht
      rw [condition?, List.foldl_append]
      cases o with
      | event e =>
          rw [show changes [Occurrence.event e] id = [] from rfl, List.append_nil] at ht
          exact ih ht
      | change other c =>
          show t = .into (if other = id then c else condition? h id)
          by_cases hother : other = id
          · rw [show changes [Occurrence.change other c] id = [.into c] by simp [changes, hother],
              List.getLast?_concat] at ht
            rw [if_pos hother]
            exact (Option.some.inj ht).symm
          · rw [show changes [Occurrence.change other c] id = [] by simp [changes, hother],
              List.append_nil] at ht
            rw [if_neg hother]
            exact ih ht

/-- Once nothing more is told of a container, it does not change any more. -/
theorem Told.condition?_take {h : History} (hh : h.Told) {id : String} {k : Nat}
    (hk : tidings (h.drop k) id = []) {m : Nat} (hm : k ≤ m) :
    condition? (h.take m) id = condition? h id := by
  have hall : ∀ m, changes h id = changes (h.take m) id ++ changes (h.drop m) id := by
    intro m
    rw [← changes_append, List.take_append_drop]
  have htold : tidings (h.take k) id = changes h id := by
    rw [← hh.complete, ← List.take_append_drop k h, tidings_append, hk, List.append_nil,
      List.take_append_drop]
  have hdrop : changes (h.drop k) id = [] := by
    have hlength := (hh.inTime k id).length_le
    rw [htold, hall k, List.length_append] at hlength
    exact List.length_eq_zero_iff.mp (by omega)
  have hlater : changes (h.drop m) id = [] := by
    rw [← List.take_append_drop (m - k) (h.drop k), changes_append, List.append_eq_nil_iff,
      List.drop_drop, Nat.add_sub_cancel' hm] at hdrop
    exact hdrop.2
  conv_rhs => rw [← List.take_append_drop m h]
  exact (condition?_append_of_changes_eq_nil hlater _).symm

/-- The last event about a container tells the condition that the container stays in. -/
theorem Told.tells?_last {past later : History} {e : Event} (hh : Told (past ++ .event e :: later))
    {id : String} {t : Transition} (he : e.tells? id = some t) (hlater : tidings later id = []) :
    t = .into (condition? (past ++ .event e :: later) id) := by
  refine getLast?_changes ?_
  rw [← hh.complete, tidings_append]
  have hevent : tidings (.event e :: later) id = [t] := by
    rw [← List.singleton_append, tidings_append, hlater]
    simp [tidings, events, he]
  rw [hevent, List.getLast?_concat]

/-- Of the events that tell something of a container there is a last one. -/
theorem exists_last_event {h : History} {id : String} (hh : tidings h id ≠ []) :
    ∃ past e later t, h = past ++ .event e :: later ∧ e.tells? id = some t ∧ tidings later id = [] := by
  induction h with
  | nil => exact absurd rfl hh
  | cons o h ih =>
      by_cases hrest : tidings h id = []
      · cases o with
        | change other c => exact absurd hrest hh
        | event e =>
            cases he : e.tells? id with
            | some t => exact ⟨[], e, h, t, rfl, he, hrest⟩
            | none =>
                refine absurd ?_ hh
                rw [← List.singleton_append, tidings_append, hrest]
                simp [tidings, events, he]
      · obtain ⟨past, e, later, t, rfl, he, hlater⟩ := ih hrest
        exact ⟨o :: past, e, later, t, rfl, he, hlater⟩

theorem exists_last_event_since {h : History} {start : Nat} {id : String}
    (hh : tidings (h.drop start) id ≠ []) :
    ∃ past e later t, h = past ++ .event e :: later ∧ start ≤ past.length ∧
      e.tells? id = some t ∧ tidings later id = [] := by
  obtain ⟨past, e, later, t, hdrop, he, hlater⟩ := exists_last_event hh
  refine ⟨h.take start ++ past, e, later, t, ?_, ?_, he, hlater⟩
  · rw [List.append_assoc, ← hdrop, List.take_append_drop]
  · have hlength := congrArg List.length hdrop
    rw [List.length_drop, List.length_append, List.length_cons] at hlength
    rw [List.length_append, List.length_take]
    omega

end History

end TrafficShaping.Daemon
