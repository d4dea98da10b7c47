import TrafficShaping.Server.Router
import TrafficShaping.Proofs.ControlAnswers
import TrafficShaping.Proofs.LockPassage
import TrafficShaping.Proofs.OfferedControls
import TrafficShaping.Proofs.RecordedRuns
import TrafficShaping.Proofs.WireRoundTrip

/-!
# What a control request is answered

A request to perform a control can go wrong in six ways, and the answer tells each from the others: the body is
no request, its node id is malformed, there is no such container, there is no such control, the container does
not run, or the control fails. The first of these that holds is the one reported, as text, and the text is read
from the answer as it was put in, whatever characters of the request it quotes. Until the control itself is
reached nothing is asked of the host, and unless it succeeds nothing is remembered.

All of that holds of a body that is read at all. One past the limit is refused unseen. And of a cache in which
the lock of the namespace that the process is found in is held by somebody or not there: if it is left over, a
request that fails takes it away, and so leaves another cache with the same entries.
-/

namespace TrafficShaping

variable {σ : Type}

/-! ## Resolving a request -/

/-- The fault of a request that does not resolve. Each presupposes that the ones before it do not hold. -/
inductive Store.Refuses (s : Store) (nodeId controlId : String) : DispatchError → Prop where
  | malformedNodeId (h : ∀ id, nodeId ≠ NodeId.ofContainer id) :
      Refuses s nodeId controlId (.malformedNodeId nodeId)
  | containerNotFound {id : String} (hid : nodeId = NodeId.ofContainer id) (h : s.lookup id = none) :
      Refuses s nodeId controlId (.containerNotFound id)
  | unknownControl {id : String} {container : Container} (hid : nodeId = NodeId.ofContainer id)
      (hlookup : s.lookup id = some container) (h : ∀ k : Control, controlId ≠ k.id) :
      Refuses s nodeId controlId (.unknownControl controlId nodeId)
  | containerNotRunning {id : String} {container : Container} {k : Control}
      (hid : nodeId = NodeId.ofContainer id) (hlookup : s.lookup id = some container)
      (hk : controlId = k.id) (h : ¬(container.state.isRunning ∧ container.pid ≠ 0)) :
      Refuses s nodeId controlId (.containerNotRunning id)

theorem Control.ofId?_eq_none_iff {id : String} : ofId? id = none ↔ ∀ k : Control, id ≠ k.id := by
  rw [Option.eq_none_iff_forall_ne_some]
  exact forall_congr' fun k => not_congr ofId?_eq_some_iff

theorem Store.resolve_eq_error_iff {s : Store} {nodeId controlId : String} {e : DispatchError} :
    s.resolve nodeId controlId = .error e ↔ s.Refuses nodeId controlId e := by
  constructor
  · intro h
    rw [resolve] at h
    split at h
    · next hnode =>
        obtain ⟨rfl, hnone⟩ := NodeId.container_eq_error_iff.mp hnode
        obtain rfl := Except.error.inj h
        exact .malformedNodeId hnone
    · next id hnode =>
        have hid := NodeId.container_eq_ok_iff.mp hnode
        split at h
        · next hlookup =>
            obtain rfl := Except.error.inj h
            exact .containerNotFound hid hlookup
        · next container hlookup =>
            split at h
            · next hcontrol =>
                obtain rfl := Except.error.inj h
                exact .unknownControl hid hlookup (Control.ofId?_eq_none_iff.mp hcontrol)
            · next k hcontrol =>
                split at h
                · cases h
                · next hrunning =>
                    obtain rfl := Except.error.inj h
                    refine .containerNotRunning hid hlookup (Control.ofId?_eq_some_iff.mp hcontrol) ?_
                    simpa using hrunning
  · intro h
    cases h with
    | malformedNodeId h => rw [resolve, NodeId.container_eq_error_iff.mpr ⟨rfl, h⟩]
    | containerNotFound hid h =>
        rw [resolve, NodeId.container_eq_ok_iff.mpr hid]
        simp only [h]
    | unknownControl hid hlookup h =>
        rw [resolve, NodeId.container_eq_ok_iff.mpr hid]
        simp only [hlookup, Control.ofId?_eq_none_iff.mpr h]
    | containerNotRunning hid hlookup hk h =>
        rw [resolve, NodeId.container_eq_ok_iff.mpr hid]
        simp only [hlookup, Control.ofId?_eq_some_iff.mpr hk]
        rw [if_neg (by simpa using h)]

theorem Store.not_refuses_of_resolve {s : Store} {nodeId controlId : String} {x : Resolved}
    (h : s.resolve nodeId controlId = .ok x) (e : DispatchError) : ¬s.Refuses nodeId controlId e := by
  rw [← resolve_eq_error_iff, h]
  nofun

/-! ## Operations that fail and operations that succeed -/

theorem Operation.shapes_perform_of_error {o : Operation} {s : Shaper σ} {c : Cache} {w : σ}
    {e : ShapingError} (h : (o.perform s c w).1 = .error e) : (o.perform s c w).2.1.shapes = c.shapes := by
  have hwritten : o.written? s c w = none := by
    cases hw : o.written? s c w with
    | none => rfl
    | some n =>
        rw [(written?_eq_some_iff.mp hw).1] at h
        cases h
  rw [shapes_perform, hwritten]
  rfl

/-- An operation that succeeds has found its process and given its commands to the host. -/
theorem Operation.runs_of_perform_ok {o : Operation} (hblank : o.isBlank = false) {s : Shaper σ} {c : Cache}
    {w : σ} (h : (o.perform s c w).1 = .ok ()) : ∃ commands, o.runs s c w = [⟨o.pid, commands⟩] := by
  obtain ⟨n, hfound⟩ := found?_of_perform_ok hblank h
  exact ⟨_, runs_of_found? hblank hfound c⟩

/-! ## Answering it -/

/-- A request for a control. -/
def HttpRequest.control (body : List UInt8) : HttpRequest :=
  { method := "POST", target := "/control", body := body }

/-- What the body of an answer says went wrong. -/
def HttpResponse.Says (r : HttpResponse) (text : String) : Prop := Wire.response.read? r.body = some ⟨some text⟩

/-- The body of an answer that says nothing went wrong. -/
def HttpResponse.IsEmpty (r : HttpResponse) : Prop := r.body = Text.Utf8.encode "\x7b\x7d"

theorem HttpResponse.says_json (status : Nat) (text : String) :
    (json status (ControlResponse.mk (some text)).toJson).Says text :=
  @Wire.read?_write .response ⟨some text⟩ nofun

theorem HttpResponse.isEmpty_json (status : Nat) : (json status ({} : ControlResponse).toJson).IsEmpty := by
  rfl

theorem HttpResponse.Says.not_isEmpty {r : HttpResponse} {text : String} (h : r.Says text) : ¬r.IsEmpty := by
  intro hempty
  have hread : Wire.response.read? (Text.Utf8.encode "\x7b\x7d") = some (ControlResponse.mk none) :=
    @Wire.read?_write .response ⟨none⟩ nofun
  rw [Says, hempty, hread] at h
  cases h

namespace Service

theorem answer_control (s : Service σ) (store : Store) (now : Instant) (body : List UInt8) (c : Cache)
    (w : σ) : s.answer store now (.control body) c w =
      if bodyLimit < body.length then (.tooLarge, c, w) else s.control store body c w := by
  have htarget : targetPath "/control" = .ok "/control" := rfl
  have hmethod : isMethod "POST" = true := by decide
  rw [answer, HttpRequest.control, htarget]
  dsimp only
  rw [if_pos hmethod, answerAt, if_neg (by decide), if_pos rfl, if_pos rfl]

/-- The same service on a host that writes down what it is given to run. -/
def recorded (s : Service σ) : Service (σ × List Run) where
  shaper := s.shaper.recorded
  metrics c w := ((s.metrics c w.1).1, (s.metrics c w.1).2, w.2)
  unreadable := s.unreadable

/-! The three ways a control goes: the body is no request, the request does not resolve, or the control is
performed. -/

theorem control_of_unreadable (s : Service σ) (store : Store) {body : List UInt8}
    (h : ControlRequest.read? body = none) (c : Cache) (w : σ) : s.control store body c w =
      (.json 400 (ControlResponse.mk (some (s.unreadable body))).toJson, c, w) := by
  rw [control, h]

theorem control_of_refuses (s : Service σ) {store : Store} {body : List UInt8} {r : ControlRequest}
    {e : DispatchError} (hr : ControlRequest.read? body = some r)
    (he : store.Refuses r.nodeId r.control e) (c : Cache) (w : σ) :
    s.control store body c w = (controlAnswer (.error e), c, w) := by
  rw [control, hr]
  simp only [s.shaper.dispatch_of_resolve_error (Store.resolve_eq_error_iff.mpr he)]

theorem control_of_resolve (s : Service σ) {store : Store} {body : List UInt8} {r : ControlRequest}
    {x : Resolved} (hr : ControlRequest.read? body = some r)
    (hx : store.resolve r.nodeId r.control = .ok x) (c : Cache) (w : σ) :
    s.control store body c w =
      (controlAnswer (((x.control.perform s.shaper x.pid c w).1.map fun _ => x.control).mapError .failed),
        (x.control.perform s.shaper x.pid c w).2) := by
  rw [control, hr]
  simp only [s.shaper.dispatch_of_resolve hx]

/-- What the host is given to run for a body. -/
def controlRuns (s : Service σ) (store : Store) (body : List UInt8) (c : Cache) (w : σ) : List Run :=
  match (ControlRequest.read? body).bind fun r => (store.resolve r.nodeId r.control).toOption with
  | some x => (x.control.operation x.pid).runs s.shaper c w
  | none => []

theorem control_recorded (s : Service σ) (store : Store) (body : List UInt8) (c : Cache) (w : σ)
    (runs : List Run) :
    s.recorded.control store body c (w, runs) =
      ((s.control store body c w).1, (s.control store body c w).2.1, (s.control store body c w).2.2,
        runs ++ s.controlRuns store body c w) := by
  rw [controlRuns]
  cases hr : ControlRequest.read? body with
  | none =>
      rw [s.control_of_unreadable store hr, s.recorded.control_of_unreadable store hr]
      simp [recorded]
  | some r =>
      cases hx : store.resolve r.nodeId r.control with
      | error e =>
          have he := Store.resolve_eq_error_iff.mp hx
          rw [s.control_of_refuses hr he, s.recorded.control_of_refuses hr he]
          simp [hx, Except.toOption]
      | ok x =>
          rw [s.control_of_resolve hr hx, s.recorded.control_of_resolve hr hx]
          simp only [Control.perform_eq_operation, recorded, Operation.perform_recorded]
          simp [hx, Except.toOption]

/-! ## The answer -/

theorem says_controlAnswer (e : DispatchError) : (controlAnswer (.error e)).Says e.message := by
  cases e <;> exact HttpResponse.says_json _ _

/-- A dispatch that fails is a bad request only if the node id was malformed. -/
theorem status_controlAnswer_of_refuses {store : Store} {nodeId controlId : String} {e : DispatchError}
    (h : store.Refuses nodeId controlId e) :
    ((controlAnswer (.error e)).status = 400 ↔ ∀ id, nodeId ≠ NodeId.ofContainer id) ∧
      ((controlAnswer (.error e)).status = 400 ∨ (controlAnswer (.error e)).status = 200) := by
  have hok : (200 : Nat) ≠ 400 := by decide
  cases h with
  | malformedNodeId h => exact ⟨iff_of_true rfl h, .inl rfl⟩
  | containerNotFound hid _ => exact ⟨iff_of_false hok fun h => h _ hid, .inr rfl⟩
  | unknownControl hid _ _ => exact ⟨iff_of_false hok fun h => h _ hid, .inr rfl⟩
  | containerNotRunning hid _ _ _ => exact ⟨iff_of_false hok fun h => h _ hid, .inr rfl⟩

/-- The namespace in which the process of a request is looked up before the control is performed. -/
def passes? (s : Service σ) (store : Store) (request : Option ControlRequest) (w : σ) : Option Identity := do
  let r ← request
  let x ← (store.resolve r.nodeId r.control).toOption
  (s.shaper.host.resolve x.pid w).1.toOption

/-- What is promised of the answer to a body, by what was read of it, of the cache after it, and of what the host
was given to run. -/
structure Answered (s : Service σ) (store : Store) (body : List UInt8) (request : Option ControlRequest)
    (c : Cache) (w : σ) (answer : HttpResponse) (after : Cache) (runs : List Run) : Prop where
  isBad_iff : answer.status = 400 ↔
    request = none ∨ ∃ r, request = some r ∧ ∀ id, r.nodeId ≠ NodeId.ofContainer id
  isBad_or_ok : answer.status = 400 ∨ answer.status = 200
  isEmpty_iff : answer.IsEmpty ↔
    ∃ r k, request = some r ∧ (s.shaper.dispatch store r.nodeId r.control c w).1 = .ok k
  says_unreadable : request = none → answer.Says (s.unreadable body)
  says_refused : ∀ r e, request = some r → store.Refuses r.nodeId r.control e → answer.Says e.message
  says_failed : ∀ r x e, request = some r → store.resolve r.nodeId r.control = .ok x →
    (x.control.perform s.shaper x.pid c w).1 = .error e → answer.Says e.message
  kept : ¬answer.IsEmpty → after.shapes = c.shapes ∧ after.locks.held = c.locks.held
  locks_kept : ¬answer.IsEmpty → c.locks.Issued →
    (∀ n, s.passes? store request w = some n → ¬c.locks.Idle n) → after.locks.locks = c.locks.locks
  idle_forgotten : ¬answer.IsEmpty → ∀ n, s.passes? store request w = some n → c.locks.Idle n →
    after.locks.locks = c.locks.locks.erase n.text
  runs_nothing : (request = none ∨ ∃ r e, request = some r ∧ store.Refuses r.nodeId r.control e) → runs = []
  runs_once : answer.IsEmpty → ∃ r id container commands, request = some r ∧
    r.nodeId = NodeId.ofContainer id ∧ store.lookup id = some container ∧
    runs = [⟨container.pid, commands⟩]

theorem passes?_of_refuses (s : Service σ) {store : Store} {r : ControlRequest} {e : DispatchError}
    (he : store.Refuses r.nodeId r.control e) (w : σ) : s.passes? store (some r) w = none := by
  have hresolve := Store.resolve_eq_error_iff.mpr he
  rw [passes?, Option.bind_eq_bind, Option.bind_some, hresolve]
  rfl

theorem passes?_of_resolve (s : Service σ) {store : Store} {r : ControlRequest} {x : Resolved}
    (hx : store.resolve r.nodeId r.control = .ok x) (w : σ) :
    s.passes? store (some r) w = (x.control.operation x.pid).found? s.shaper w := by
  rw [passes?, Option.bind_eq_bind, Option.bind_some, hx, Operation.found?, Control.pid_operation]
  rfl

theorem answered_unreadable (s : Service σ) (store : Store) (body : List UInt8) (c : Cache) (w : σ) :
    s.Answered store body none c w (.json 400 (ControlResponse.mk (some (s.unreadable body))).toJson) c [] := by
  have hsays := HttpResponse.says_json 400 (s.unreadable body)
  exact {
    isBad_iff := iff_of_true rfl (.inl rfl)
    isBad_or_ok := .inl rfl
    isEmpty_iff := iff_of_false hsays.not_isEmpty nofun
    says_unreadable := fun _ => hsays
    says_refused := nofun
    says_failed := nofun
    kept := fun _ => ⟨rfl, rfl⟩
    locks_kept := fun _ _ _ => rfl
    idle_forgotten := fun _ => nofun
    runs_nothing := fun _ => rfl
    runs_once := fun h => absurd h hsays.not_isEmpty }

theorem answered_refused {s : Service σ} {store : Store} {r : ControlRequest} {e : DispatchError}
    (he : store.Refuses r.nodeId r.control e) (body : List UInt8) (c : Cache) (w : σ) :
    s.Answered store body (some r) c w (controlAnswer (.error e)) c [] := by
  have hresolve := Store.resolve_eq_error_iff.mpr he
  have hsays := says_controlAnswer e
  obtain ⟨hbad, hstatus⟩ := status_controlAnswer_of_refuses he
  exact {
    isBad_iff := by simp [hbad]
    isBad_or_ok := hstatus
    isEmpty_iff := iff_of_false hsays.not_isEmpty (by simp [s.shaper.dispatch_of_resolve_error hresolve])
    says_unreadable := nofun
    says_refused := by
      rintro _ e' ⟨⟩ he'
      have heq := hresolve.symm.trans (Store.resolve_eq_error_iff.mpr he')
      exact Except.error.inj heq ▸ hsays
    says_failed := by
      rintro _ x _ ⟨⟩ hx
      rw [hresolve] at hx
      cases hx
    kept := fun _ => ⟨rfl, rfl⟩
    locks_kept := fun _ _ _ => rfl
    idle_forgotten := fun _ n hn => by
      rw [s.passes?_of_refuses he] at hn
      cases hn
    runs_nothing := fun _ => rfl
    runs_once := fun h => absurd h hsays.not_isEmpty }

theorem answered_failed {s : Service σ} {store : Store} {r : ControlRequest} {x : Resolved} {e : ShapingError}
    {c : Cache} {w : σ} (hx : store.resolve r.nodeId r.control = .ok x)
    (he : (x.control.perform s.shaper x.pid c w).1 = .error e) (body : List UInt8) (runs : List Run) :
    s.Answered store body (some r) c w (controlAnswer (.error (.failed e)))
      (x.control.perform s.shaper x.pid c w).2.1 runs := by
  have hsays := says_controlAnswer (.failed e)
  obtain ⟨hnode, -, -⟩ := Store.resolve_eq_ok_iff.mp hx
  have hdispatch : (s.shaper.dispatch store r.nodeId r.control c w).1 = .error (.failed e) := by
    rw [s.shaper.dispatch_of_resolve hx, he]
    rfl
  have hpasses := s.passes?_of_resolve hx w
  have hlocks := Operation.locks_perform (x.control.isBlank_operation x.pid) s.shaper c w
  rw [Control.perform_eq_operation] at he ⊢
  exact {
    isBad_iff := iff_of_false (show (200 : Nat) ≠ 400 by decide) (by simpa using ⟨_, hnode⟩)
    isBad_or_ok := .inr rfl
    isEmpty_iff := iff_of_false hsays.not_isEmpty (by simp [hdispatch])
    says_unreadable := nofun
    says_refused := by
      rintro _ e' ⟨⟩ he'
      exact absurd he' (Store.not_refuses_of_resolve hx e')
    says_failed := by
      rintro _ x' e' ⟨⟩ hx' he'
      obtain rfl := Except.ok.inj (hx.symm.trans hx')
      rw [Control.perform_eq_operation] at he'
      obtain rfl := Except.error.inj (he.symm.trans he')
      exact hsays
    kept := fun _ => ⟨Operation.shapes_perform_of_error he, Operation.held_locks_perform _ s.shaper c w⟩
    locks_kept := fun _ hissued hidle => by
      rw [hpasses] at hidle
      rw [hlocks]
      cases hfound : (x.control.operation x.pid).found? s.shaper w with
      | none => rfl
      | some n => exact LockTable.locks_passage_of_not_idle hissued (hidle n hfound)
    idle_forgotten := fun _ n hn hidle => by
      rw [hpasses] at hn
      rw [hlocks, hn]
      exact LockTable.locks_passage_of_idle hidle
    runs_nothing := by simp [Store.not_refuses_of_resolve hx]
    runs_once := fun h => absurd h hsays.not_isEmpty }

theorem answered_performed {s : Service σ} {store : Store} {r : ControlRequest} {x : Resolved} {c : Cache}
    {w : σ} (hx : store.resolve r.nodeId r.control = .ok x)
    (hok : (x.control.perform s.shaper x.pid c w).1 = .ok ()) (body : List UInt8) (after : Cache) :
    s.Answered store body (some r) c w (controlAnswer (.ok x.control)) after
      ((x.control.operation x.pid).runs s.shaper c w) := by
  have hempty : (controlAnswer (.ok x.control)).IsEmpty := HttpResponse.isEmpty_json 200
  obtain ⟨hnode, -, container, hlookup, -, -, hpid⟩ := Store.resolve_eq_ok_iff.mp hx
  have hdispatch : (s.shaper.dispatch store r.nodeId r.control c w).1 = .ok x.control := by
    rw [s.shaper.dispatch_of_resolve hx, hok]
    rfl
  have hruns : ∃ commands, (x.control.operation x.pid).runs s.shaper c w = [⟨container.pid, commands⟩] := by
    rw [Control.perform_eq_operation] at hok
    obtain ⟨commands, h⟩ := Operation.runs_of_perform_ok (x.control.isBlank_operation x.pid) hok
    exact ⟨commands, by rw [h, Control.pid_operation, hpid]⟩
  exact {
    isBad_iff := iff_of_false (show (200 : Nat) ≠ 400 by decide) (by simpa using ⟨_, hnode⟩)
    isBad_or_ok := .inr rfl
    isEmpty_iff := iff_of_true hempty ⟨r, x.control, rfl, hdispatch⟩
    says_unreadable := nofun
    says_refused := by
      rintro _ e' ⟨⟩ he'
      exact absurd he' (Store.not_refuses_of_resolve hx e')
    says_failed := by
      rintro _ x' e' ⟨⟩ hx' he'
      obtain rfl := Except.ok.inj (hx.symm.trans hx')
      rw [hok] at he'
      cases he'
    kept := fun h => absurd hempty h
    locks_kept := fun h => absurd hempty h
    idle_forgotten := fun h => absurd hempty h
    runs_nothing := by simp [Store.not_refuses_of_resolve hx]
    runs_once := fun _ => by
      obtain ⟨commands, hruns⟩ := hruns
      exact ⟨r, x.container, container, commands, rfl, hnode, hlookup, hruns⟩ }

theorem answered_control (s : Service σ) (store : Store) (body : List UInt8) (c : Cache) (w : σ) :
    s.Answered store body (ControlRequest.read? body) c w (s.control store body c w).1
      (s.control store body c w).2.1 (s.controlRuns store body c w) := by
  rw [controlRuns]
  cases hr : ControlRequest.read? body with
  | none =>
      rw [s.control_of_unreadable store hr]
      exact s.answered_unreadable store body c w
  | some r =>
      rw [Option.bind_some]
      cases hx : store.resolve r.nodeId r.control with
      | error e =>
          have he := Store.resolve_eq_error_iff.mp hx
          rw [s.control_of_refuses hr he]
          exact answered_refused he body c w
      | ok x =>
          rw [s.control_of_resolve hr hx]
          cases hperform : (x.control.perform s.shaper x.pid c w).1 with
          | error e => exact answered_failed hx hperform body _
          | ok u => exact answered_performed hx hperform body _

/-- A control request with a body up to the limit is answered as promised, whatever the body, the store, the
cache and the host. One with a longer body is refused, and nothing else happens. -/
theorem control_request_answered (s : Service σ) (store : Store) (now : Instant) (body : List UInt8)
    (c : Cache) (w : σ) (runs : List Run) :
    let (answer, after, host) := s.answer store now (.control body) c w
    ∃ given, s.recorded.answer store now (.control body) c (w, runs) = (answer, after, host, runs ++ given) ∧
      (body.length ≤ bodyLimit → s.Answered store body (ControlRequest.read? body) c w answer after given) ∧
      (bodyLimit < body.length → answer = .tooLarge ∧ after = c ∧ given = []) := by
  rw [answer_control, answer_control]
  by_cases hlimit : bodyLimit < body.length
  · rw [if_pos hlimit, if_pos hlimit]
    refine ⟨[], by rw [List.append_nil], fun h => absurd hlimit (Nat.not_lt.mpr h), fun _ => ⟨rfl, rfl, rfl⟩⟩
  · rw [if_neg hlimit, if_neg hlimit]
    exact ⟨s.controlRuns store body c w, s.control_recorded store body c w runs,
      fun _ => s.answered_control store body c w, fun h => absurd h hlimit⟩

/-- Two requests that are not answered as those above. The first, for a control of a container that is not known,
is followed by as many blanks as a body may have bytes. The second is for a control of a container in whose
namespace nothing can be run, and the lock of that namespace was left over: the error is answered, and the lock
is gone. -/
theorem control_request_exceptions :
    let n : Identity := ⟨"4026531840", by decide⟩
    let s : Service Unit := {
      shaper := { host := {
        resolve := fun _ w => (.ok n, w)
        run := fun _ _ w => (.error (.enter .notPermitted), w) } }
      metrics := MetricsSource.disabled.informant
      unreadable := fun _ => "expected value at line 1 column 1" }
    let store : Store := ({} : Store).upsert { id := "abc", pid := 7, state := .running }
    let now : Instant := ⟨⟨1970, 1, 1, by decide⟩, ⟨0, 0, 0, 0, by decide⟩⟩
    let body (nodeId : String) : List UInt8 :=
      (ControlRequest.toJson { nodeId, control := "network-control-table-slow" }).render
    let left : Cache := { locks := { locks := Dict.empty.insert n.text ⟨0⟩, issued := 1 } }
    let failed := s.answer store now (.control (body "abc;<container>")) left ()
    (s.answer store now (.control (body "def;<container>" ++ List.replicate bodyLimit 0x20)) left ()).1.status =
        413 ∧
      failed.1.Says "failed to enter network namespace: EPERM: Operation not permitted" ∧
      left.locks.current? n = some ⟨0⟩ ∧ failed.2.1.locks.current? n = none := by
  intro n s store now body left failed
  refine ⟨?_, ?_⟩
  · have hlimit : bodyLimit < (body "def;<container>" ++ List.replicate bodyLimit 0x20).length := by
      have hlength : 0 < (body "def;<container>").length := by decide +kernel
      rw [List.length_append, List.length_replicate]
      omega
    rw [answer_control, if_pos hlimit]
    rfl
  · let request : ControlRequest := { nodeId := "abc;<container>", control := "network-control-table-slow" }
    let found : Resolved := ⟨"abc", 7, .slow⟩
    have hlimit : ¬bodyLimit < (body "abc;<container>").length := by decide +kernel
    have hread : ControlRequest.read? (body "abc;<container>") = some request :=
      @Wire.read?_write .request request nofun
    have hresolve : store.resolve request.nodeId request.control = .ok found := by decide
    have hfailed : failed = (controlAnswer (.error (.failed (.enter .notPermitted))),
        (found.control.perform s.shaper found.pid left ()).2) := by
      show s.answer store now (.control (body "abc;<container>")) left () = _
      rw [answer_control, if_neg hlimit, s.control_of_resolve hread hresolve]
      rfl
    rw [hfailed]
    exact ⟨says_controlAnswer (.failed (.enter .notPermitted)), by decide, by decide⟩

end Service

end TrafficShaping
