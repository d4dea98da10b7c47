import TrafficShaping.Dict
import TrafficShaping.Namespace

/-!
# Locks by namespace

Work on one namespace is done under that namespace's lock, so that the table has to hand out the same lock
to everybody who holds one at the same time. A lock is in the table for as long as somebody asks for it;
once its holders have let go of it, a release takes it out again, and never before. The next one to ask
then gets a new lock.

A lock is told from others by its number, and `held` has one entry for every handle that is out.
-/

namespace TrafficShaping

structure Lock where
  number : Nat
deriving DecidableEq

structure LockTable where
  locks : Dict Lock := ∅
  issued : Nat := 0
  held : List Lock := []
deriving DecidableEq

namespace LockTable

instance : Inhabited LockTable := ⟨{}⟩

/-- A handle to the lock of a namespace, which is made if there is none. -/
def acquire (t : LockTable) (n : Identity) : Lock × LockTable :=
  match t.locks.get? n.text with
  | some lock => (lock, { t with held := lock :: t.held })
  | none =>
    let lock := ⟨t.issued⟩
    (lock, ⟨t.locks.insert n.text lock, t.issued + 1, lock :: t.held⟩)

/-- Lets go of one handle to a lock. -/
def letGo (t : LockTable) (lock : Lock) : LockTable := { t with held := t.held.erase lock }

/-- Forgets the lock of a namespace unless somebody holds a handle to it. -/
def release (t : LockTable) (n : Identity) : LockTable :=
  match t.locks.get? n.text with
  | some lock => if lock ∈ t.held then t else { t with locks := t.locks.erase n.text }
  | none => t

/-- The lock of a namespace now, if there is one. -/
def current? (t : LockTable) (n : Identity) : Option Lock := t.locks.get? n.text

theorem fst_acquire_of_current? {t : LockTable} {n : Identity} {lock : Lock}
    (h : t.current? n = some lock) : (t.acquire n).1 = lock ∧ (t.acquire n).2.issued = t.issued := by
  have hget : t.locks.get? n.text = some lock := h
  rw [acquire, hget]
  exact ⟨rfl, rfl⟩

theorem fst_acquire_of_current?_eq_none {t : LockTable} {n : Identity} (h : t.current? n = none) :
    (t.acquire n).1 = ⟨t.issued⟩ ∧ (t.acquire n).2.issued = t.issued + 1 := by
  have hget : t.locks.get? n.text = none := h
  rw [acquire, hget]
  exact ⟨rfl, rfl⟩

theorem current?_acquire (t : LockTable) (n m : Identity) :
    (t.acquire n).2.current? m = if m = n then some (t.acquire n).1 else t.current? m := by
  rw [acquire]
  split
  · next lock h =>
      split
      · next hm => rw [hm]; exact h
      · rfl
  · simp only [current?, Dict.get?_insert, Identity.text_inj]

theorem held_acquire (t : LockTable) (n : Identity) :
    (t.acquire n).2.held = (t.acquire n).1 :: t.held := by
  rw [acquire]
  split <;> rfl

@[simp] theorem current?_letGo (t : LockTable) (lock : Lock) (n : Identity) :
    (t.letGo lock).current? n = t.current? n := rfl

theorem held_release (t : LockTable) (n : Identity) : (t.release n).held = t.held := by
  rw [release]
  split
  · split <;> rfl
  · rfl

theorem issued_release (t : LockTable) (n : Identity) : (t.release n).issued = t.issued := by
  rw [release]
  split
  · split <;> rfl
  · rfl

theorem current?_release (t : LockTable) (n m : Identity) : (t.release n).current? m =
    if m = n ∧ ∀ lock, t.current? n = some lock → lock ∉ t.held then none else t.current? m := by
  have hcurrent : t.current? n = t.locks.get? n.text := rfl
  rw [release]
  split
  · next lock hlock =>
      rw [hlock] at hcurrent
      simp only [hcurrent, Option.some.injEq, forall_eq']
      split
      · next hheld => rw [if_neg fun h => h.2 hheld]
      · next hfree =>
          simp only [hfree, not_false_eq_true, and_true]
          simp only [current?, Dict.get?_erase, Identity.text_inj]
  · next hnone =>
      split
      · next h => rw [h.1, hcurrent, hnone]
      · rfl

end LockTable

end TrafficShaping
