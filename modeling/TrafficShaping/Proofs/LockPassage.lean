import TrafficShaping.Proofs.Operations

/-!
# Operations leave the locks alone

An operation takes the lock of a namespace, lets go of it and releases it, however it ends. Afterwards the
handles that were out are out, and the table has the locks that it had. There is one exception. A lock may be in
the table although nobody holds it, when its last holder has let go of it and not yet released it. An operation
on the namespace of such a lock releases it.

A number has been used up if a lock was made. Numbers only tell locks apart, so that this is no change.
-/

namespace TrafficShaping

namespace LockTable

/-- Whether every handle that is out is to a lock that was issued. -/
def Issued (t : LockTable) : Prop := ∀ lock ∈ t.held, lock.number < t.issued

/-- Whether the lock of a namespace is in the table although nobody holds it. -/
def Idle (t : LockTable) (n : Identity) : Prop := ∃ lock, t.current? n = some lock ∧ lock ∉ t.held

/-- What asking for the lock of a namespace, letting go of it and releasing it make of a table. -/
def passage (t : LockTable) (n : Identity) : LockTable :=
  ((t.acquire n).2.letGo (t.acquire n).1).release n

theorem held_letGo_acquire (t : LockTable) (n : Identity) :
    ((t.acquire n).2.letGo (t.acquire n).1).held = t.held := by
  rw [letGo, held_acquire, List.erase_cons_head]

theorem held_passage (t : LockTable) (n : Identity) : (t.passage n).held = t.held := by
  rw [passage, held_release, held_letGo_acquire]

/-- Only the namespace of a passage may lose its lock, and it keeps one that somebody holds. -/
theorem current?_passage (t : LockTable) (n m : Identity) : (t.passage n).current? m =
    if m = n then (if (t.acquire n).1 ∈ t.held then some (t.acquire n).1 else none) else t.current? m := by
  rw [passage, current?_release, held_letGo_acquire]
  simp only [current?_letGo, current?_acquire, if_true, Option.some.injEq, forall_eq']
  by_cases hm : m = n
  · by_cases hheld : (t.acquire n).1 ∈ t.held <;> simp [hm, hheld]
  · simp [hm]

theorem locks_passage_of_idle {t : LockTable} {n : Identity} (h : t.Idle n) :
    (t.passage n).locks = t.locks.erase n.text := by
  obtain ⟨lock, hcurrent, hfree⟩ := h
  have hget : t.locks.get? n.text = some lock := hcurrent
  have hacquire : t.acquire n = (lock, { t with held := lock :: t.held }) := by rw [acquire, hget]
  simp only [passage, hacquire, letGo, release, hget, List.erase_cons_head, if_neg hfree]

theorem locks_passage_of_not_idle {t : LockTable} {n : Identity} (hissued : t.Issued) (h : ¬t.Idle n) :
    (t.passage n).locks = t.locks := by
  cases hget : t.locks.get? n.text with
  | some lock =>
      have hheld : lock ∈ t.held := Decidable.of_not_not fun hfree => h ⟨lock, hget, hfree⟩
      have hacquire : t.acquire n = (lock, { t with held := lock :: t.held }) := by rw [acquire, hget]
      simp only [passage, hacquire, letGo, release, hget, List.erase_cons_head, if_pos hheld]
  | none =>
      let lock : Lock := ⟨t.issued⟩
      have hfree : lock ∉ t.held := fun hheld => absurd (hissued lock hheld) (Nat.lt_irrefl _)
      have hacquire : t.acquire n =
          (lock, ⟨t.locks.insert n.text lock, t.issued + 1, lock :: t.held⟩) := by rw [acquire, hget]
      have hmade : (t.locks.insert n.text lock).get? n.text = some lock := by
        rw [Dict.get?_insert, if_pos rfl]
      simp only [passage, hacquire, letGo, release, hmade, List.erase_cons_head, if_neg hfree]
      refine Dict.ext_get? fun key => ?_
      rw [Dict.get?_erase, Dict.get?_insert]
      split
      · next hkey => rw [hkey, hget]
      · rfl

end LockTable

variable {σ : Type}

/-- The shaper passes through the lock of the namespace that it finds the process in, and through no other. -/
theorem Shaper.locks_perform (s : Shaper σ) (pid : Pid) (commands : Identity → Cache → List Command)
    {commit : Identity → Cache → Cache} (hcommit : ∀ n c, (commit n c).locks = c.locks) (c : Cache) (w : σ) :
    (s.perform pid commands commit c w).2.1.locks =
      ((s.host.resolve pid w).1.toOption.elim c.locks c.locks.passage) := by
  rw [perform]
  rcases s.host.resolve pid w with ⟨e | n, v⟩
  · rfl
  · simp only [Cache.locked]
    rcases s.host.run pid (commands n { c with locks := (c.locks.acquire n).2 }) v with ⟨e | ⟨⟩, v⟩
    · rfl
    · simp only
      rcases s.confirm pid n v with ⟨e | ⟨⟩, v⟩
      · rfl
      · simp only [hcommit]
        rfl

namespace Operation

theorem locks_perform_of_isBlank {o : Operation} (h : o.isBlank = true) (s : Shaper σ) (c : Cache) (w : σ) :
    (o.perform s c w).2.1.locks = c.locks := by
  rw [perform_of_isBlank h]

theorem locks_perform {o : Operation} (h : o.isBlank = false) (s : Shaper σ) (c : Cache) (w : σ) :
    (o.perform s c w).2.1.locks = (o.found? s w).elim c.locks c.locks.passage := by
  rw [perform_of_not_isBlank h]
  exact s.locks_perform o.pid _ (fun n c => by cases o <;> rfl) c w

theorem held_locks_perform (o : Operation) (s : Shaper σ) (c : Cache) (w : σ) :
    (o.perform s c w).2.1.locks.held = c.locks.held := by
  cases hblank : o.isBlank with
  | true => rw [locks_perform_of_isBlank hblank]
  | false =>
      rw [locks_perform hblank]
      cases o.found? s w with
      | none => rfl
      | some n => exact c.locks.held_passage n

end Operation

end TrafficShaping
