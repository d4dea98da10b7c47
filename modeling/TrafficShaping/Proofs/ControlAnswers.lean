import TrafficShaping.Dispatch
import TrafficShaping.Proofs.Operations
import TrafficShaping.Proofs.WatchedStore
import Mathlib.Data.List.Induction

/-!
# Requests and events in any order

Between two reports, requests are dispatched and containers live on, in any order. What the cache reads
afterwards is decided by the requests that were answered without error alone, and for each namespace only by
those since it was last cleared: in each dimension, by the last preset among them.

For this, every process has to have its place, or none, for good. Nothing is assumed of the commands, which
may fail or not each time, and nothing of the events: a container may come back as another process, and in
another namespace.
-/

namespace TrafficShaping

variable {σ : Type}

/-- Whether a host finds every process where `place` says, whenever it is asked. -/
def Host.Places (h : Host σ) (place : Pid → Option Identity) : Prop :=
  ∀ pid w, (h.resolve pid w).1.toOption = place pid

/-! ## Controls as operations -/

namespace Control

/-- What a control asks of the shaper. -/
def operation (k : Control) (pid : Pid) : Operation :=
  match k.preset? with
  | some (d, value) => .apply pid d value
  | none => .clear pid

/-- What a control makes of a shape. -/
def reshape (k : Control) (shape : Shape) : Shape :=
  match k.preset? with
  | some (d, value) => shape.set d (.ofText value)
  | none => {}

/-- The value that a control applies to a dimension. -/
def presetOf? (k : Control) (d : Dimension) : Option String :=
  (k.preset?.filter (·.1 = d)).map (·.2)

theorem pid_operation (k : Control) (pid : Pid) : (k.operation pid).pid = pid := by
  cases k <;> rfl

theorem isBlank_operation (k : Control) (pid : Pid) : (k.operation pid).isBlank = false := by
  cases k <;> rfl

theorem getD_entry_operation (k : Control) (pid : Pid) (before : Option Shape) :
    ((k.operation pid).entry before).getD {} = k.reshape (before.getD {}) := by
  cases k <;> rfl

theorem perform_eq_operation (s : Shaper σ) (k : Control) (pid : Pid) (c : Cache) (w : σ) :
    k.perform s pid c w = (k.operation pid).perform s c w := by
  cases k <;> rfl

theorem text_get_reshape (k : Control) (shape : Shape) (d : Dimension) :
    ((k.reshape shape).get d).text =
      if k = .clear then Param.unsetText else (k.presetOf? d).getD (shape.get d).text := by
  cases k <;> cases d <;> rfl

/-- Performing a control changes what is read of one namespace, if it succeeds. -/
theorem read_perform {s : Shaper σ} {place : Pid → Option Identity} (h : s.host.Places place)
    (k : Control) (pid : Pid) (c : Cache) (w : σ) (n : Identity) :
    (k.perform s pid c w).2.1.read n =
      if (k.perform s pid c w).1 = .ok () ∧ place pid = some n then k.reshape (c.read n)
      else c.read n := by
  have hfound : (k.operation pid).found? s w = place pid := by
    rw [Operation.found?, pid_operation]
    exact h pid w
  have hwritten : (k.operation pid).written? s c w = some n ↔
      ((k.operation pid).perform s c w).1 = .ok () ∧ place pid = some n := by
    rw [Operation.written?_eq_some_iff, hfound, isBlank_operation]
    exact and_congr_right fun _ => and_iff_right rfl
  rw [perform_eq_operation, Cache.read, Operation.get?_perform, if_congr hwritten rfl rfl]
  split
  · exact k.getD_entry_operation pid (c.get? n)
  · rfl

end Control

/-! ## Histories -/

/-- What can happen between reports. -/
inductive Happening where
  | request (nodeId controlId : String)
  | event (e : LifeEvent)

/-- What requests and events meet: the host as it is, the containers that are known, and the cache. -/
structure Situation (σ : Type) where
  host : σ
  store : Store := {}
  cache : Cache := {}

namespace Shaper

/-- How a request ends. -/
def outcome (s : Shaper σ) (x : Situation σ) (nodeId controlId : String) :
    Except DispatchError Control :=
  (s.dispatch x.store nodeId controlId x.cache x.host).1

/-- What a request or an event leaves. -/
def meet (s : Shaper σ) (x : Situation σ) : Happening → Situation σ
  | .request nodeId controlId =>
    let r := s.dispatch x.store nodeId controlId x.cache x.host
    { x with cache := r.2.1, host := r.2.2 }
  | .event e => { x with store := x.store.apply e }

/-- The process and the control of a request that is answered without error. -/
def answered? (s : Shaper σ) (x : Situation σ) : Happening → Option (Pid × Control)
  | .request nodeId controlId => do
    let r ← (x.store.resolve nodeId controlId).toOption
    let control ← (s.outcome x nodeId controlId).toOption
    return (r.pid, control)
  | .event _ => none

/-- Where a history leads. -/
def after (s : Shaper σ) (hs : List Happening) (x : Situation σ) : Situation σ := hs.foldl s.meet x

/-- What was answered without error, in order. -/
def answers (s : Shaper σ) : List Happening → Situation σ → List (Pid × Control)
  | [], _ => []
  | h :: hs, x => (s.answered? x h).toList ++ s.answers hs (s.meet x h)

theorem after_append_singleton (s : Shaper σ) (hs : List Happening) (h : Happening)
    (x : Situation σ) : s.after (hs ++ [h]) x = s.meet (s.after hs x) h := by
  rw [after, List.foldl_append]
  rfl

theorem answers_append_singleton (s : Shaper σ) (hs : List Happening) (h : Happening)
    (x : Situation σ) :
    s.answers (hs ++ [h]) x = s.answers hs x ++ (s.answered? (s.after hs x) h).toList := by
  induction hs generalizing x with
  | nil => exact List.append_nil _
  | cons g hs ih =>
      rw [List.cons_append, answers, answers, ih, List.append_assoc]
      rfl

theorem keyed_meet {s : Shaper σ} {x : Situation σ} (hx : x.store.Keyed) (h : Happening) :
    (s.meet x h).store.Keyed := by
  cases h with
  | request nodeId controlId => exact hx
  | event e => exact hx.apply e

theorem keyed_after {s : Shaper σ} {x : Situation σ} (hx : x.store.Keyed) (hs : List Happening) :
    (s.after hs x).store.Keyed := by
  induction hs using List.reverseRecOn with
  | nil => exact hx
  | append_singleton hs h ih =>
      rw [after_append_singleton]
      exact keyed_meet ih h

/-- A request that resolves ends as its control does. -/
theorem dispatch_of_resolve (s : Shaper σ) {store : Store} {nodeId controlId : String} {r : Resolved}
    (h : store.resolve nodeId controlId = .ok r) (c : Cache) (w : σ) :
    s.dispatch store nodeId controlId c w =
      (((r.control.perform s r.pid c w).1.map fun _ => r.control).mapError .failed,
        (r.control.perform s r.pid c w).2) := by
  rw [dispatch, h]
  simp only
  rcases r.control.perform s r.pid c w with ⟨e | ⟨⟩, c, w⟩ <;> rfl

theorem dispatch_of_resolve_error (s : Shaper σ) {store : Store} {nodeId controlId : String}
    {e : DispatchError} (h : store.resolve nodeId controlId = .error e) (c : Cache) (w : σ) :
    s.dispatch store nodeId controlId c w = (.error e, c, w) := by
  rw [dispatch, h]

/-- A request that is not answered changes nothing that is read, and one that is answered reshapes the
namespace of its process. -/
theorem read_meet {s : Shaper σ} {place : Pid → Option Identity} (hplace : s.host.Places place)
    (x : Situation σ) (h : Happening) (n : Identity) :
    (s.meet x h).cache.read n =
      match s.answered? x h with
      | some (pid, k) => if place pid = some n then k.reshape (x.cache.read n) else x.cache.read n
      | none => x.cache.read n := by
  cases h with
  | event e => rfl
  | request nodeId controlId =>
      rw [meet, answered?, outcome]
      cases hresolve : x.store.resolve nodeId controlId with
      | error e =>
          rw [s.dispatch_of_resolve_error hresolve]
          rfl
      | ok r =>
          rw [s.dispatch_of_resolve hresolve]
          refine (r.control.read_perform hplace r.pid x.cache x.host n).trans ?_
          cases (r.control.perform s r.pid x.cache x.host).1 with
          | error e => exact if_neg fun h => by cases h.1
          | ok a => exact if_congr (and_iff_right rfl) rfl rfl

end Shaper

/-! ## The last preset since the last clear -/

/-- The controls that were answered in a namespace since it was last cleared, the latest one first. -/
def sinceClear (place : Pid → Option Identity) (n : Identity) (answers : List (Pid × Control)) :
    List Control :=
  ((answers.filter (place ·.1 = some n)).map (·.2)).reverse.takeWhile (· ≠ .clear)

/-- The value of the last preset of a dimension that was answered in a namespace since it was last cleared,
and that of an unset parameter if there is none. -/
def lastPreset (place : Pid → Option Identity) (n : Identity) (d : Dimension)
    (answers : List (Pid × Control)) : String :=
  ((sinceClear place n answers).findSome? (·.presetOf? d)).getD Param.unsetText

theorem sinceClear_append_singleton (place : Pid → Option Identity) (n : Identity)
    (answers : List (Pid × Control)) (pid : Pid) (k : Control) :
    sinceClear place n (answers ++ [(pid, k)]) =
      if place pid = some n then
        if k = .clear then [] else k :: sinceClear place n answers
      else sinceClear place n answers := by
  rw [sinceClear, List.filter_append, List.map_append, List.reverse_append]
  by_cases hn : place pid = some n
  · rw [if_pos hn, List.filter_cons, if_pos (decide_eq_true hn)]
    by_cases hk : k = .clear
    · rw [if_pos hk, hk]
      rfl
    · rw [if_neg hk]
      exact List.takeWhile_cons_of_pos (decide_eq_true hk)
  · rw [if_neg hn, List.filter_cons, if_neg (by simp [hn])]
    rfl

theorem lastPreset_append_singleton (place : Pid → Option Identity) (n : Identity) (d : Dimension)
    (answers : List (Pid × Control)) (pid : Pid) (k : Control) :
    lastPreset place n d (answers ++ [(pid, k)]) =
      if place pid = some n then
        if k = .clear then Param.unsetText else (k.presetOf? d).getD (lastPreset place n d answers)
      else lastPreset place n d answers := by
  rw [lastPreset, sinceClear_append_singleton]
  split
  · split
    · rfl
    · rw [List.findSome?_cons]
      cases k.presetOf? d <;> rfl
  · rfl

/-- After any history, the cache reads the last preset since the last clear in every namespace. -/
theorem text_read_after {s : Shaper σ} {place : Pid → Option Identity} (hplace : s.host.Places place)
    (hs : List Happening) (w : σ) (n : Identity) (d : Dimension) :
    (((s.after hs { host := w }).cache.read n).get d).text =
      lastPreset place n d (s.answers hs { host := w }) := by
  induction hs using List.reverseRecOn with
  | nil => cases d <;> rfl
  | append_singleton hs h ih =>
      rw [Shaper.after_append_singleton, Shaper.answers_append_singleton, Shaper.read_meet hplace]
      cases s.answered? (s.after hs { host := w }) h with
      | none =>
          rw [Option.toList_none, List.append_nil]
          exact ih
      | some answer =>
          obtain ⟨pid, k⟩ := answer
          rw [Option.toList_some, lastPreset_append_singleton, ← ih]
          simp only
          split
          · exact k.text_get_reshape _ d
          · rfl

end TrafficShaping
