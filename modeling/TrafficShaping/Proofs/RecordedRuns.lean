import TrafficShaping.Proofs.Operations

/-!
# What a host is given to run

A host may do as it likes with the commands that it is given, so that they cannot be read off its state. A
recorded host is the same host with a list beside it, in which every call to run something is written down
before anybody knows how it ends. Recording is transparent: an operation on a recorded host does what it
does on the plain one, and the list grows by what the operation runs, at most one sequence of commands.
-/

namespace TrafficShaping

/-- A sequence of commands that a host was given to run for a process. -/
structure Run where
  pid : Pid
  commands : List Command
deriving DecidableEq

variable {σ : Type}

/-- A host that writes down what it is given to run. -/
def Host.recorded (h : Host σ) : Host (σ × List Run) where
  resolve pid w := ((h.resolve pid w.1).1, (h.resolve pid w.1).2, w.2)
  run pid commands w :=
    ((h.run pid commands w.1).1, (h.run pid commands w.1).2, w.2 ++ [⟨pid, commands⟩])

def Shaper.recorded (s : Shaper σ) : Shaper (σ × List Run) := ⟨s.builder, s.host.recorded⟩

/-- What an operation gives to the host to run. -/
def Operation.runs (o : Operation) (s : Shaper σ) (c : Cache) (w : σ) : List Run :=
  if o.isBlank then []
  else ((o.found? s w).map fun n => ⟨o.pid, o.commands s.builder (c.read n)⟩).toList

theorem Shaper.confirm_recorded (s : Shaper σ) (pid : Pid) (n : Identity) (w : σ)
    (runs : List Run) :
    s.recorded.confirm pid n (w, runs) = ((s.confirm pid n w).1, (s.confirm pid n w).2, runs) := by
  rw [confirm, confirm]
  simp only [Shaper.recorded, Host.recorded]
  rcases s.host.resolve pid w with ⟨e | m, v⟩ <;> rfl

theorem Shaper.perform_recorded (s : Shaper σ) (pid : Pid)
    {commands : Identity → Cache → List Command} {commit : Identity → Cache → Cache}
    (hcommands : ∀ n c locks, commands n { c with locks } = commands n c) (c : Cache) (w : σ)
    (runs : List Run) :
    s.recorded.perform pid commands commit c (w, runs) =
      ((s.perform pid commands commit c w).1, (s.perform pid commands commit c w).2.1,
        (s.perform pid commands commit c w).2.2,
        runs ++ ((s.host.resolve pid w).1.toOption.map fun n => ⟨pid, commands n c⟩).toList) := by
  rw [perform, perform]
  have hresolve : s.recorded.host.resolve pid (w, runs) =
      ((s.host.resolve pid w).1, (s.host.resolve pid w).2, runs) := rfl
  rw [hresolve]
  rcases s.host.resolve pid w with ⟨e | n, v⟩
  · simp [Except.toOption]
  · have hrun : s.recorded.host.run pid (commands n c) (v, runs) =
        ((s.host.run pid (commands n c) v).1, (s.host.run pid (commands n c) v).2,
          runs ++ [⟨pid, commands n c⟩]) := rfl
    simp only [Cache.locked, hcommands, hrun]
    rcases s.host.run pid (commands n c) v with ⟨e | ⟨⟩, v⟩
    · rfl
    · simp only [confirm_recorded]
      rcases s.confirm pid n v with ⟨e | ⟨⟩, v⟩ <;> rfl

namespace Operation

theorem runs_of_found? {o : Operation} (hblank : o.isBlank = false) {s : Shaper σ} {w : σ}
    {n : Identity} (h : o.found? s w = some n) (c : Cache) :
    o.runs s c w = [⟨o.pid, o.commands s.builder (c.read n)⟩] := by
  rw [runs, hblank, h]
  rfl

theorem runs_of_found?_eq_none {o : Operation} {s : Shaper σ} {w : σ} (h : o.found? s w = none)
    (c : Cache) : o.runs s c w = [] := by
  rw [runs, h]
  exact ite_self _

/-- Recording changes nothing but the record. -/
theorem perform_recorded (o : Operation) (s : Shaper σ) (c : Cache) (w : σ) (runs : List Run) :
    o.perform s.recorded c (w, runs) =
      ((o.perform s c w).1, (o.perform s c w).2.1, (o.perform s c w).2.2,
        runs ++ o.runs s c w) := by
  rw [Operation.runs]
  cases hblank : o.isBlank with
  | true =>
      rw [perform_of_isBlank hblank, perform_of_isBlank hblank, if_pos rfl, List.append_nil]
  | false =>
      rw [perform_of_not_isBlank hblank, perform_of_not_isBlank hblank, if_neg (by simp)]
      exact s.perform_recorded o.pid (fun _ _ _ => rfl) c w runs

end Operation

/-- What a call gave to the host to run. -/
def Call.runs (s : Shaper σ) (call : Call σ) : List Run :=
  call.operation.runs s call.before.1 call.before.2

/-- The record of a run of operations is what its calls gave to the host, in order. -/
theorem Shaper.run_recorded (s : Shaper σ) (os : List Operation) (c : Cache) (w : σ)
    (runs : List Run) : s.recorded.run os (c, w, runs) =
      ((s.run os (c, w)).1, (s.run os (c, w)).2, runs ++ (s.calls os (c, w)).flatMap (·.runs s)) := by
  induction os generalizing c w runs with
  | nil => rw [calls, List.flatMap_nil, List.append_nil]; rfl
  | cons o os ih =>
      have hafter : (o.call s.recorded (c, w, runs)).after =
          ((o.call s (c, w)).after.1, (o.call s (c, w)).after.2, runs ++ o.runs s c w) :=
        congrArg (·.2) (o.perform_recorded s c w runs)
      rw [run_cons, hafter, ih, run_cons, calls, List.flatMap_cons, ← List.append_assoc]
      rfl

end TrafficShaping
