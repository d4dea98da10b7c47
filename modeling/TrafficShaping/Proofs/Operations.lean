import TrafficShaping.Shaping.Shaper

/-!
# Operations of a shaper and their calls

What a shaper is asked to do, as data, so that whole histories of it can be spoken of. An operation is
performed on a cache and a host in some state; the call that comes of it remembers both as they were before
and after, and how it ended.

The shaper works under a lock and writes the cache in the middle of it, which makes its definition awkward
to reason about. `Operation.attempt` is the same work with the cache left out: what is asked of the host, in
which order, and the namespace in which it all took effect. `perform_eq` says that performing an operation
is attempting it and then, if that succeeded, writing the one entry. The locks are the only part of the
cache it says nothing of. Everything below and in the modules on caches goes through that equation; no
other proof opens the shaper.
-/

namespace TrafficShaping

/-- What a shaper is asked to do. -/
inductive Operation where
  | apply (pid : Pid) (d : Dimension) (value : String)
  | clear (pid : Pid)
deriving DecidableEq

namespace Operation

def pid : Operation → Pid
  | .apply pid _ _ | .clear pid => pid

/-- Whether an operation asks for nothing, as applying a blank value does. -/
def isBlank : Operation → Bool
  | .apply _ _ value => Text.trim value = ""
  | .clear _ => false

/-- The commands of an operation in a namespace that has a shape. -/
def commands (o : Operation) (b : CommandBuilder) (shape : Shape) : List Command :=
  match o with
  | .apply _ d value => b.build d value (shape.get d.other)
  | .clear _ => b.clear

/-- What an operation makes of the entry of a namespace. -/
def entry (o : Operation) (before : Option Shape) : Option Shape :=
  match o with
  | .apply _ d value => some ((before.getD {}).set d (.ofText value))
  | .clear _ => none

/-- Writes the entry of a namespace. -/
def commit (o : Operation) (n : Identity) (c : Cache) : Cache :=
  match o with
  | .apply _ d value => c.apply n (.ofText d value)
  | .clear _ => c.clear n

variable {σ : Type}

def perform (o : Operation) (s : Shaper σ) (c : Cache) (w : σ) :
    Except ShapingError Unit × Cache × σ :=
  match o with
  | .apply pid d value => s.apply pid d value c w
  | .clear pid => s.clear pid c w

/-- The namespace that a process is found in before anything is run. -/
def found? (o : Operation) (s : Shaper σ) (w : σ) : Option Identity :=
  (s.host.resolve o.pid w).1.toOption

end Operation

/-! ## Calls and runs -/

/-- An operation that was performed: what it met, how it ended, and what it left. -/
structure Call (σ : Type) where
  operation : Operation
  before : Cache × σ
  result : Except ShapingError Unit
  after : Cache × σ

def Operation.call {σ : Type} (o : Operation) (s : Shaper σ) (x : Cache × σ) : Call σ :=
  let r := o.perform s x.1 x.2
  ⟨o, x, r.1, r.2⟩

namespace Shaper

variable {σ : Type}

/-- The calls that operations make one after the other. -/
def calls (s : Shaper σ) : List Operation → Cache × σ → List (Call σ)
  | [], _ => []
  | o :: os, x => o.call s x :: s.calls os (o.call s x).after

/-- Where operations performed one after the other lead. -/
def run (s : Shaper σ) (os : List Operation) (x : Cache × σ) : Cache × σ :=
  os.foldl (fun x o => (o.call s x).after) x

theorem run_cons (s : Shaper σ) (o : Operation) (os : List Operation) (x : Cache × σ) :
    s.run (o :: os) x = s.run os (o.call s x).after := rfl

theorem run_append_singleton (s : Shaper σ) (os : List Operation) (o : Operation) (x : Cache × σ) :
    s.run (os ++ [o]) x = (o.call s (s.run os x)).after := by
  rw [run, List.foldl_append]
  rfl

theorem calls_append_singleton (s : Shaper σ) (os : List Operation) (o : Operation)
    (x : Cache × σ) : s.calls (os ++ [o]) x = s.calls os x ++ [o.call s (s.run os x)] := by
  induction os generalizing x with
  | nil => rfl
  | cons p os ih =>
      rw [List.cons_append, calls, calls, run_cons, ih]
      rfl

/-! ## Attempts

What an operation asks of the host when the commands are already known for every namespace. -/

/-- Finds a process, runs commands where it is, and looks whether it is still there. -/
def attempt (s : Shaper σ) (pid : Pid) (commands : Identity → List Command) (w : σ) :
    Except ShapingError Identity × σ :=
  match s.host.resolve pid w with
  | (.error e, w) => (.error e, w)
  | (.ok n, w) =>
    match s.host.run pid (commands n) w with
    | (.error e, w) => (.error e, w)
    | (.ok (), w) =>
      match s.confirm pid n w with
      | (.error e, w) => (.error e, w)
      | (.ok (), w) => (.ok n, w)

/-- An attempt ends well only in the namespace that the process was found in. -/
theorem resolve_of_attempt_ok {s : Shaper σ} {pid : Pid} {commands : Identity → List Command}
    {w : σ} {n : Identity} (h : (s.attempt pid commands w).1 = .ok n) :
    (s.host.resolve pid w).1 = .ok n := by
  rw [attempt] at h
  split at h
  · cases h
  · next m v hresolve =>
      rw [hresolve]
      split at h
      · cases h
      · split at h
        · cases h
        · exact h

theorem confirm_of_resolve {s : Shaper σ} {pid : Pid} {w v : σ} {n : Identity}
    (h : s.host.resolve pid w = (.ok n, v)) : s.confirm pid n w = (.ok (), v) := by
  rw [confirm, h]
  simp only [if_true]

/-- Work that neither reads the locks nor writes them is an attempt, followed by the write if it
succeeds. -/
theorem perform_eq_attempt (s : Shaper σ) (pid : Pid) (commands : Identity → Cache → List Command)
    (commit : Identity → Cache → Cache)
    (hcommands : ∀ n c locks, commands n { c with locks } = commands n c)
    (hcommit : ∀ n c locks, commit n { c with locks } = { commit n c with locks })
    (c : Cache) (w : σ) :
    ∃ locks, s.perform pid commands commit c w =
      ((s.attempt pid (commands · c) w).1.map fun _ => (),
        { ((s.attempt pid (commands · c) w).1.toOption.elim c (commit · c)) with locks },
        (s.attempt pid (commands · c) w).2) := by
  rw [perform, attempt]
  rcases s.host.resolve pid w with ⟨e | n, v⟩
  · exact ⟨c.locks, rfl⟩
  · simp only [Cache.locked, hcommands]
    rcases s.host.run pid (commands n c) v with ⟨e | ⟨⟩, v⟩
    · exact ⟨_, rfl⟩
    · simp only
      rcases s.confirm pid n v with ⟨e | ⟨⟩, v⟩
      · exact ⟨_, rfl⟩
      · simp only
        rw [hcommit]
        exact ⟨_, rfl⟩

end Shaper

namespace Operation

variable {σ : Type}

/-- What an operation asks of the host, and the namespace it took effect in; none if there was nothing to
do. -/
def attempt (o : Operation) (s : Shaper σ) (c : Cache) (w : σ) :
    Except ShapingError (Option Identity) × σ :=
  if o.isBlank then (.ok none, w)
  else
    let r := s.attempt o.pid (fun n => o.commands s.builder (c.read n)) w
    (r.1.map some, r.2)

/-- The namespace whose entry an operation writes. -/
def written? (o : Operation) (s : Shaper σ) (c : Cache) (w : σ) : Option Identity :=
  (o.attempt s c w).1.toOption.join

/-- An operation that asks for something is work of the shaper on its commands and its entry. -/
theorem perform_of_not_isBlank {o : Operation} (h : o.isBlank = false) (s : Shaper σ) (c : Cache)
    (w : σ) : o.perform s c w =
      s.perform o.pid (fun n c => o.commands s.builder (c.read n)) o.commit c w := by
  cases o with
  | clear pid => rfl
  | apply pid d value =>
      have hvalue : Text.trim value ≠ "" := by simpa [isBlank] using h
      rw [perform, Shaper.apply, if_neg hvalue]
      rfl

theorem perform_of_isBlank {o : Operation} (h : o.isBlank = true) (s : Shaper σ) (c : Cache)
    (w : σ) : o.perform s c w = (.ok (), c, w) := by
  cases o with
  | clear pid => cases h
  | apply pid d value =>
      have hvalue : Text.trim value = "" := by simpa [isBlank] using h
      rw [perform, Shaper.apply, if_pos hvalue]

theorem commit_locks (o : Operation) (n : Identity) (c : Cache) (locks : LockTable) :
    o.commit n { c with locks } = { o.commit n c with locks } := by
  cases o <;> rfl

/-- Performing an operation is attempting it and then writing the entry of the namespace that it took
effect in. -/
theorem perform_eq (o : Operation) (s : Shaper σ) (c : Cache) (w : σ) :
    ∃ locks, o.perform s c w =
      ((o.attempt s c w).1.map fun _ => (),
        { ((o.written? s c w).elim c (o.commit · c)) with locks },
        (o.attempt s c w).2) := by
  cases hblank : o.isBlank with
  | true =>
      rw [perform_of_isBlank hblank, written?, attempt, if_pos hblank]
      exact ⟨c.locks, rfl⟩
  | false =>
      obtain ⟨locks, h⟩ := s.perform_eq_attempt o.pid
        (fun n c => o.commands s.builder (c.read n)) o.commit (fun _ _ _ => rfl) o.commit_locks c w
      refine ⟨locks, ?_⟩
      rw [perform_of_not_isBlank hblank, h, written?, attempt, if_neg (by simp [hblank])]
      generalize s.attempt o.pid (fun n => o.commands s.builder (c.read n)) w = r
      obtain ⟨e | n, v⟩ := r <;> rfl

theorem fst_perform (o : Operation) (s : Shaper σ) (c : Cache) (w : σ) :
    (o.perform s c w).1 = (o.attempt s c w).1.map fun _ => () := by
  obtain ⟨locks, h⟩ := o.perform_eq s c w
  rw [h]

theorem shapes_perform (o : Operation) (s : Shaper σ) (c : Cache) (w : σ) :
    (o.perform s c w).2.1.shapes = ((o.written? s c w).elim c (o.commit · c)).shapes := by
  obtain ⟨locks, h⟩ := o.perform_eq s c w
  rw [h]

theorem snd_snd_perform (o : Operation) (s : Shaper σ) (c : Cache) (w : σ) :
    (o.perform s c w).2.2 = (o.attempt s c w).2 := by
  obtain ⟨locks, h⟩ := o.perform_eq s c w
  rw [h]

/-- An entry is written exactly when there was something to do, it succeeded, and the process was found in
that namespace to begin with. -/
theorem written?_eq_some_iff {o : Operation} {s : Shaper σ} {c : Cache} {w : σ} {n : Identity} :
    o.written? s c w = some n ↔
      (o.perform s c w).1 = .ok () ∧ o.isBlank = false ∧ o.found? s w = some n := by
  rw [fst_perform, written?, attempt]
  cases hblank : o.isBlank with
  | true => simp [Except.toOption]
  | false =>
      simp only [Bool.false_eq_true, if_false, true_and]
      cases h : (s.attempt o.pid (fun n => o.commands s.builder (c.read n)) w).1 with
      | error e =>
          constructor
          · intro h
            cases h
          · rintro ⟨h, _⟩
            cases h
      | ok m =>
          have hfound : o.found? s w = some m := by
            rw [found?, Shaper.resolve_of_attempt_ok h]
            rfl
          rw [hfound]
          exact ⟨fun h => ⟨rfl, h⟩, And.right⟩

/-- An operation that asks for something and succeeds has found its process. -/
theorem found?_of_perform_ok {o : Operation} (hblank : o.isBlank = false) {s : Shaper σ} {c : Cache}
    {w : σ} (h : (o.perform s c w).1 = .ok ()) : ∃ n, o.found? s w = some n := by
  rw [fst_perform, attempt, if_neg (by simp [hblank])] at h
  cases hattempt : (s.attempt o.pid (fun n => o.commands s.builder (c.read n)) w).1 with
  | error e =>
      simp only [hattempt] at h
      cases h
  | ok n =>
      refine ⟨n, ?_⟩
      rw [found?, Shaper.resolve_of_attempt_ok hattempt]
      rfl

theorem get?_commit (o : Operation) (n m : Identity) (c : Cache) :
    (o.commit n c).get? m = if m = n then o.entry (c.get? n) else c.get? m := by
  cases o with
  | apply pid d value => exact c.get?_apply n m _
  | clear pid => exact c.get?_clear n m

/-- What performing an operation does to the entry of any namespace. -/
theorem get?_perform (o : Operation) (s : Shaper σ) (c : Cache) (w : σ) (m : Identity) :
    (o.perform s c w).2.1.get? m =
      if o.written? s c w = some m then o.entry (c.get? m) else c.get? m := by
  rw [Cache.get?, shapes_perform]
  cases o.written? s c w with
  | none => rfl
  | some n =>
      rw [Option.elim_some, ← Cache.get?, get?_commit]
      by_cases hm : m = n
      · rw [if_pos hm, if_pos (by rw [hm]), hm]
      · rw [if_neg hm, if_neg (fun h => hm (Option.some.inj h).symm)]

end Operation

end TrafficShaping
