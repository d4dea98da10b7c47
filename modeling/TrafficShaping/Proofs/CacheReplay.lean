import TrafficShaping.Proofs.RecordedRuns

/-!
# The cache is a replay of what succeeded

Nothing that failed leaves a trace in the cache. The entry of a namespace is what one gets by going through
the calls in order, keeping those that succeeded, asked for something, and found their process in that
namespace to begin with, and doing to the entry what each of them says. The host may answer differently
every time it is asked, and may fail at any of the three stages of an operation; a process may be found in
one namespace first and in another one later; several processes may share a namespace.

There is no invariant to carry: `Operation.get?_perform` says for one operation, on any cache whatsoever,
what becomes of any entry, and `Operation.written?_eq_some_iff` says that the condition it asks for is the
one of the replay.
-/

namespace TrafficShaping

variable {σ : Type}

/-- Whether a call counts for a namespace: it succeeded, asked for something, and found its process there
to begin with. -/
def Call.counts (s : Shaper σ) (n : Identity) (call : Call σ) : Bool :=
  call.result.toOption.isSome && !call.operation.isBlank &&
    call.operation.found? s call.before.2 = some n

/-- The entry of a namespace after calls, going by those that count for it. -/
def replay (s : Shaper σ) (n : Identity) (calls : List (Call σ)) (before : Option Shape) :
    Option Shape :=
  (calls.filter (·.counts s n)).foldl (fun entry call => call.operation.entry entry) before

theorem counts_call_iff {s : Shaper σ} {n : Identity} {o : Operation} {c : Cache} {w : σ} :
    (o.call s (c, w)).counts s n = true ↔ o.written? s c w = some n := by
  have hok : (o.perform s c w).1.toOption.isSome = true ↔ (o.perform s c w).1 = .ok () := by
    rcases (o.perform s c w).1 with e | ⟨⟩ <;> simp [Except.toOption]
  rw [Operation.written?_eq_some_iff, ← hok]
  rw [Call.counts, Bool.and_eq_true, Bool.and_eq_true, Bool.not_eq_true', decide_eq_true_eq,
    and_assoc]
  rfl

/-- One call does to an entry what its operation says, if the call counts for it. -/
theorem get?_call (s : Shaper σ) (o : Operation) (x : Cache × σ) (n : Identity) :
    (o.call s x).after.1.get? n = replay s n [o.call s x] (x.1.get? n) := by
  obtain ⟨c, w⟩ := x
  have hafter : (o.call s (c, w)).after = (o.perform s c w).2 := rfl
  rw [hafter, Operation.get?_perform, replay]
  by_cases h : o.written? s c w = some n
  · rw [if_pos h, List.filter_cons_of_pos (counts_call_iff.mpr h)]
    rfl
  · rw [if_neg h, List.filter_cons_of_neg (fun hc => h (counts_call_iff.mp hc))]
    rfl

theorem get?_run (s : Shaper σ) (n : Identity) (os : List Operation) (x : Cache × σ) :
    (s.run os x).1.get? n = replay s n (s.calls os x) (x.1.get? n) := by
  induction os generalizing x with
  | nil => rfl
  | cons o os ih =>
      rw [Shaper.run_cons, ih, get?_call, Shaper.calls, replay, replay, replay, ← List.foldl_append,
        ← List.filter_append]
      rfl

/-- A call that failed has left every entry as it was, and so has one that asked for nothing. -/
theorem shapes_call_of_not_ok {s : Shaper σ} {o : Operation} {x : Cache × σ}
    (h : (o.call s x).result ≠ .ok () ∨ o.isBlank) : (o.call s x).after.1.shapes = x.1.shapes := by
  have hwritten : o.written? s x.1 x.2 = none := by
    cases hw : o.written? s x.1 x.2 with
    | none => rfl
    | some n =>
        obtain ⟨hok, hblank, _⟩ := Operation.written?_eq_some_iff.mp hw
        rcases h with h | h
        · exact absurd hok h
        · rw [hblank] at h
          cases h
  exact (o.shapes_perform s x.1 x.2).trans (by rw [hwritten]; rfl)

theorem get?_call_of_found?_ne {s : Shaper σ} {o : Operation} {x : Cache × σ} {n : Identity}
    (h : o.found? s x.2 ≠ some n) : (o.call s x).after.1.get? n = x.1.get? n := by
  have hwritten : o.written? s x.1 x.2 ≠ some n :=
    fun hw => h (Operation.written?_eq_some_iff.mp hw).2.2
  exact (o.get?_perform s x.1 x.2 n).trans (if_neg hwritten)

/-- What a host is given to run by one call: nothing if nothing was asked for or the process is nowhere to
be found, and one sequence of commands otherwise. -/
theorem runs_call (s : Shaper σ) (o : Operation) (c : Cache) (w : σ) (runs : List Run) :
    (o.call s.recorded (c, w, runs)).after.2.2 = runs ++ o.runs s c w :=
  congrArg (·.2.2.2) (o.perform_recorded s c w runs)

/-- After any operations on an empty cache, over a host that may answer and fail as it likes, the entry of
every namespace is the replay of the calls that count for it. At every point of such a run: a call that
fails or asks for nothing changes no entry, no call changes the entry of a namespace other than the one it
found its process in first, and the host is given nothing to run if nothing was asked for or the process
is not found, and exactly one sequence of commands for that process otherwise. -/
theorem get?_run_eq_replay (s : Shaper σ) (os : List Operation) (w : σ) :
    (∀ n, (s.run os ({}, w)).1.get? n = replay s n (s.calls os ({}, w)) none) ∧
      ∀ (o : Operation) (c : Cache) (v : σ) (runs : List Run),
        ((o.call s (c, v)).result ≠ .ok () ∨ o.isBlank →
          (o.call s (c, v)).after.1.shapes = c.shapes) ∧
        (∀ n, o.found? s v ≠ some n → (o.call s (c, v)).after.1.get? n = c.get? n) ∧
        (o.isBlank ∨ o.found? s v = none →
          (o.call s.recorded (c, v, runs)).after.2.2 = runs) ∧
        (o.isBlank = false → ∀ n, o.found? s v = some n →
          ∃ commands, (o.call s.recorded (c, v, runs)).after.2.2 = runs ++ [⟨o.pid, commands⟩]) := by
  refine ⟨fun n => get?_run s n os ({}, w), fun o c v runs => ⟨?_, ?_, ?_, ?_⟩⟩
  · exact shapes_call_of_not_ok
  · intro n hn
    exact get?_call_of_found?_ne hn
  · intro h
    rw [runs_call, Operation.runs]
    rcases h with h | h
    · rw [if_pos h, List.append_nil]
    · rw [h]
      split <;> exact List.append_nil _
  · intro hblank n hn
    refine ⟨o.commands s.builder (c.read n), ?_⟩
    rw [runs_call, Operation.runs, hn, if_neg (by simp [hblank])]
    rfl

end TrafficShaping
