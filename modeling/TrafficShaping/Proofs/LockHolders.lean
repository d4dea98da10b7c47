import TrafficShaping.Proofs.LockPassage
import Mathlib.Data.List.Induction

/-!
# Holders of locks

Any number of holders ask for the locks of namespaces, let go of their handles and release the locks, each at
any time. What makes the locks locks is that all who hold a handle for one namespace hold the same one, and
that nobody else holds it. This is threatened by every release: it takes a lock out of the table, the next to
ask gets a new one, and if somebody still held the old one, two would hold the namespace.

The invariant, `Sound`, says that the count in the table is right, that a lock somebody holds is in the table
under its namespace, and that a lock was never handed out for two namespaces, not even at different times.
For the last part every handle that was ever handed out is kept on record, and new locks are told from all of
these by their number. A release then takes out the lock of a namespace exactly if nobody holds a handle for
it, and leaves every other entry as it was.

A shaping operation asks, lets go and releases however it ends, so that for the table it is one more holder.
-/

namespace TrafficShaping

/-! ## Holders -/

/-- What a holder does about the lock of a namespace: it asks for a handle, lets go of one, or releases. -/
inductive LockStep where
  | take (holder : Nat) (n : Identity)
  | drop (holder : Nat) (n : Identity)
  | release (holder : Nat) (n : Identity)
deriving DecidableEq

/-- A handle to a lock: who asked for it, and for which namespace. -/
structure Handle where
  holder : Nat
  identity : Identity
  lock : Lock
deriving DecidableEq

/-- A table of locks with the handles that are out, and all that were ever handed out. -/
structure Holding where
  table : LockTable := {}
  out : List Handle := []
  handed : List Handle := []

namespace LockStep

def holder : LockStep → Nat
  | .take holder _ | .drop holder _ | .release holder _ => holder

def identity : LockStep → Identity
  | .take _ n | .drop _ n | .release _ n => n

/-- A holder who has no handle for a namespace has none to let go of. -/
def perform (x : Holding) : LockStep → Holding
  | .take holder n =>
    let handle : Handle := ⟨holder, n, (x.table.acquire n).1⟩
    ⟨(x.table.acquire n).2, handle :: x.out, handle :: x.handed⟩
  | .drop holder n =>
    match x.out.find? fun a => a.holder = holder ∧ a.identity = n with
    | some handle => { x with table := x.table.letGo handle.lock, out := x.out.erase handle }
    | none => x
  | .release _ n => { x with table := x.table.release n }

end LockStep

namespace Holding

/-- Where steps lead from the empty table. -/
def after (steps : List LockStep) : Holding := steps.foldl LockStep.perform {}

theorem after_append (steps more : List LockStep) :
    after (steps ++ more) = more.foldl LockStep.perform (after steps) :=
  List.foldl_append

/-- Whether the table knows who holds what, and no lock was ever handed out for two namespaces. -/
structure Sound (x : Holding) : Prop where
  held : x.table.held.Perm (x.out.map (·.lock))
  handed : ∀ a ∈ x.out, a ∈ x.handed
  current : ∀ a ∈ x.out, x.table.current? a.identity = some a.lock
  known : ∀ n lock, x.table.current? n = some lock → ∃ a ∈ x.handed, a.identity = n ∧ a.lock = lock
  issued : ∀ a ∈ x.handed, a.lock.number < x.table.issued
  apart : ∀ a ∈ x.handed, ∀ b ∈ x.handed, a.lock = b.lock → a.identity = b.identity

theorem sound_empty : Sound {} where
  held := List.Perm.nil
  handed := nofun
  current := nofun
  known := nofun
  issued := nofun
  apart := nofun

namespace Sound

variable {x : Holding}

theorem mem_held_iff (h : x.Sound) {lock : Lock} :
    lock ∈ x.table.held ↔ ∃ a ∈ x.out, a.lock = lock :=
  h.held.mem_iff.trans List.mem_map

/-- The lock of a namespace is held exactly by those who hold a handle for the namespace. -/
theorem mem_held_iff_of_current? (h : x.Sound) {n : Identity} {lock : Lock}
    (hlock : x.table.current? n = some lock) : lock ∈ x.table.held ↔ ∃ a ∈ x.out, a.identity = n := by
  rw [h.mem_held_iff]
  constructor
  · rintro ⟨a, ha, rfl⟩
    obtain ⟨b, hb, hidentity, hsame⟩ := h.known n a.lock hlock
    exact ⟨a, ha, (h.apart a (h.handed a ha) b hb hsame.symm).trans hidentity⟩
  · rintro ⟨a, ha, rfl⟩
    exact ⟨a, ha, Option.some.inj ((h.current a ha).symm.trans hlock)⟩

/-- A release takes the lock of its namespace out of the table unless somebody holds a handle for it, and
leaves all other entries as they were. -/
theorem current?_release (h : x.Sound) (n m : Identity) : (x.table.release n).current? m =
    if m = n ∧ ∀ a ∈ x.out, a.identity ≠ n then none else x.table.current? m := by
  rw [LockTable.current?_release]
  refine if_congr (and_congr_right fun _ => ?_) rfl rfl
  constructor
  · intro hfree a ha hidentity
    have hcurrent : x.table.current? n = some a.lock := hidentity ▸ h.current a ha
    exact hfree a.lock hcurrent (h.mem_held_iff.mpr ⟨a, ha, rfl⟩)
  · intro hout lock hlock hheld
    obtain ⟨a, ha, hidentity⟩ := (h.mem_held_iff_of_current? hlock).mp hheld
    exact hout a ha hidentity

theorem current?_release_of_mem_out (h : x.Sound) {a : Handle} (ha : a ∈ x.out) (n : Identity) :
    (x.table.release n).current? a.identity = some a.lock := by
  rw [h.current?_release, if_neg fun hfree => hfree.2 a ha hfree.1]
  exact h.current a ha

/-- A lock that was handed out before is handed out again only for the same namespace. -/
theorem identity_of_acquire (h : x.Sound) {n : Identity} {a : Handle} (ha : a ∈ x.handed)
    (hlock : a.lock = (x.table.acquire n).1) : a.identity = n := by
  cases hcurrent : x.table.current? n with
  | some lock =>
      obtain ⟨b, hb, hidentity, hsame⟩ := h.known n lock hcurrent
      rw [(LockTable.fst_acquire_of_current? hcurrent).1, ← hsame] at hlock
      exact (h.apart a ha b hb hlock).trans hidentity
  | none =>
      rw [(LockTable.fst_acquire_of_current?_eq_none hcurrent).1] at hlock
      have hissued := h.issued a ha
      rw [hlock] at hissued
      exact absurd hissued (Nat.lt_irrefl _)

/-- Asking for a lock, letting go of it and releasing it takes it out of the table unless somebody else holds a
handle for its namespace, and leaves all other entries as they were. -/
theorem current?_passage (h : x.Sound) (n m : Identity) : (x.table.passage n).current? m =
    if m = n ∧ ∀ a ∈ x.out, a.identity ≠ n then none else x.table.current? m := by
  rw [LockTable.current?_passage]
  by_cases hm : m = n
  · rw [if_pos hm, hm]
    by_cases hout : ∀ a ∈ x.out, a.identity ≠ n
    · have hfree : (x.table.acquire n).1 ∉ x.table.held := by
        intro hheld
        obtain ⟨a, ha, hlock⟩ := h.mem_held_iff.mp hheld
        exact hout a ha (h.identity_of_acquire (h.handed a ha) hlock)
      rw [if_neg hfree, if_pos ⟨rfl, hout⟩]
    · obtain ⟨a, ha, hidentity⟩ : ∃ a ∈ x.out, a.identity = n := by simpa using hout
      have hcurrent : x.table.current? n = some a.lock := hidentity ▸ h.current a ha
      have hheld : a.lock ∈ x.table.held := h.mem_held_iff.mpr ⟨a, ha, rfl⟩
      rw [(LockTable.fst_acquire_of_current? hcurrent).1, if_pos hheld, if_neg fun hfree => hout hfree.2,
        hcurrent]
  · rw [if_neg hm, if_neg fun hfree => hm hfree.1]

theorem issued_acquire (h : x.Sound) (n : Identity) :
    (x.table.acquire n).1.number < (x.table.acquire n).2.issued ∧
      x.table.issued ≤ (x.table.acquire n).2.issued := by
  cases hcurrent : x.table.current? n with
  | some lock =>
      obtain ⟨b, hb, -, rfl⟩ := h.known n lock hcurrent
      obtain ⟨hlock, hissued⟩ := LockTable.fst_acquire_of_current? hcurrent
      rw [hlock, hissued]
      exact ⟨h.issued b hb, Nat.le_refl _⟩
  | none =>
      obtain ⟨hlock, hissued⟩ := LockTable.fst_acquire_of_current?_eq_none hcurrent
      rw [hlock, hissued]
      exact ⟨Nat.lt_succ_self _, Nat.le_succ _⟩

theorem take (h : x.Sound) (holder : Nat) (n : Identity) : ((LockStep.take holder n).perform x).Sound where
  held := by
    show (x.table.acquire n).2.held.Perm _
    rw [LockTable.held_acquire]
    exact h.held.cons _
  handed a ha := (List.mem_cons.mp ha).elim (fun heq => heq ▸ List.mem_cons_self)
    fun ha => List.mem_cons_of_mem _ (h.handed a ha)
  current a ha := by
    show (x.table.acquire n).2.current? a.identity = some a.lock
    rw [LockTable.current?_acquire]
    rcases List.mem_cons.mp ha with rfl | ha
    · exact if_pos rfl
    · split
      · next hidentity =>
          have hcurrent := h.current a ha
          rw [hidentity] at hcurrent
          rw [(LockTable.fst_acquire_of_current? hcurrent).1]
      · exact h.current a ha
  known m lock hlock := by
    have hlock : (x.table.acquire n).2.current? m = some lock := hlock
    rw [LockTable.current?_acquire] at hlock
    split at hlock
    · next hm => exact ⟨_, List.mem_cons_self, hm.symm, Option.some.inj hlock⟩
    · obtain ⟨a, ha, hknown⟩ := h.known m lock hlock
      exact ⟨a, List.mem_cons_of_mem _ ha, hknown⟩
  issued a ha := by
    rcases List.mem_cons.mp ha with rfl | ha
    · exact (h.issued_acquire n).1
    · exact Nat.lt_of_lt_of_le (h.issued a ha) (h.issued_acquire n).2
  apart a ha b hb hlock := by
    rcases List.mem_cons.mp ha with rfl | ha
    · rcases List.mem_cons.mp hb with rfl | hb
      · rfl
      · exact (h.identity_of_acquire hb hlock.symm).symm
    · rcases List.mem_cons.mp hb with rfl | hb
      · exact h.identity_of_acquire ha hlock
      · exact h.apart a ha b hb hlock

theorem drop (h : x.Sound) (holder : Nat) (n : Identity) : ((LockStep.drop holder n).perform x).Sound := by
  rw [LockStep.perform]
  split
  · next handle hfind =>
      have hmem : handle ∈ x.out := List.mem_of_find?_eq_some hfind
      exact {
        held := by
          have hperm := h.held.trans ((List.perm_cons_erase hmem).map (·.lock))
          exact (hperm.erase handle.lock).trans (by rw [List.map_cons, List.erase_cons_head])
        handed := fun a ha => h.handed a (List.mem_of_mem_erase ha)
        current := fun a ha => h.current a (List.mem_of_mem_erase ha)
        known := h.known
        issued := h.issued
        apart := h.apart }
  · exact h

theorem release (h : x.Sound) (holder : Nat) (n : Identity) :
    ((LockStep.release holder n).perform x).Sound where
  held := by
    show (x.table.release n).held.Perm _
    rw [LockTable.held_release]
    exact h.held
  handed := h.handed
  current _ ha := h.current?_release_of_mem_out ha n
  known m lock hlock := by
    have hlock : (x.table.release n).current? m = some lock := hlock
    rw [h.current?_release] at hlock
    split at hlock
    · cases hlock
    · exact h.known m lock hlock
  issued a ha := by
    show _ < (x.table.release n).issued
    rw [LockTable.issued_release]
    exact h.issued a ha
  apart := h.apart

theorem perform (h : x.Sound) (o : LockStep) : (o.perform x).Sound := by
  cases o with
  | take holder n => exact h.take holder n
  | drop holder n => exact h.drop holder n
  | release holder n => exact h.release holder n

end Sound

theorem sound_after (steps : List LockStep) : (after steps).Sound := by
  induction steps using List.reverseRecOn with
  | nil => exact sound_empty
  | append_singleton steps o ih =>
      rw [after_append]
      exact ih.perform o

/-- In a table that holders have come to, every lock that is held was issued. -/
theorem issued_after (steps : List LockStep) : (after steps).table.Issued := by
  intro lock hheld
  have hsound := sound_after steps
  obtain ⟨a, ha, rfl⟩ := hsound.mem_held_iff.mp hheld
  exact hsound.issued a (hsound.handed a ha)

/-! ## When a lock is gone

What is done about one namespace changes nothing for the others, so that a lock can be followed through the
steps on its own namespace. If nobody holds a handle and the last of these steps was a release, then the
release has met a lock that nobody held. -/

theorem mem_out_perform {x : Holding} {o : LockStep} {a : Handle} (ha : a ∈ x.out)
    (hne : a.identity ≠ o.identity) : a ∈ (o.perform x).out := by
  cases o with
  | take holder n => exact List.mem_cons_of_mem _ ha
  | drop holder n =>
      rw [LockStep.perform]
      split
      · next handle hfind =>
          have hown : handle.holder = holder ∧ handle.identity = n := by
            simpa using List.find?_some hfind
          have hother : a ≠ handle := by
            rintro rfl
            exact hne hown.2
          exact (List.mem_erase_of_ne hother).mpr ha
      · exact ha
  | release holder n => exact ha

theorem current?_perform_of_ne {x : Holding} {o : LockStep} {n : Identity} (hne : n ≠ o.identity) :
    (o.perform x).table.current? n = x.table.current? n := by
  cases o with
  | take holder m =>
      have hnm : n ≠ m := hne
      show (x.table.acquire m).2.current? n = x.table.current? n
      rw [LockTable.current?_acquire, if_neg hnm]
  | drop holder m =>
      rw [LockStep.perform]
      split <;> rfl
  | release holder m =>
      have hnm : n ≠ m := hne
      show (x.table.release m).current? n = x.table.current? n
      rw [LockTable.current?_release, if_neg fun h => hnm h.1]

theorem current?_after_eq_none {n : Identity} {steps : List LockStep}
    (hout : ∀ a ∈ (after steps).out, a.identity ≠ n)
    (hlast : ∀ o, (steps.filter (·.identity = n)).getLast? = some o → ∃ holder, o = .release holder n) :
    (after steps).table.current? n = none := by
  induction steps using List.reverseRecOn with
  | nil => rfl
  | append_singleton steps o ih =>
      rw [List.filter_append] at hlast
      have hperform : after (steps ++ [o]) = o.perform (after steps) := after_append steps [o]
      rw [hperform] at hout ⊢
      by_cases ho : o.identity = n
      · rw [List.filter_cons_of_pos (by simpa using ho), List.filter_nil, List.getLast?_concat] at hlast
        obtain ⟨holder, rfl⟩ := hlast o rfl
        show ((after steps).table.release n).current? n = none
        rw [(sound_after steps).current?_release]
        exact if_pos ⟨rfl, hout⟩
      · rw [List.filter_cons_of_neg (by simpa using ho), List.filter_nil, List.append_nil] at hlast
        rw [current?_perform_of_ne (Ne.symm ho)]
        refine ih (fun a ha hidentity => ?_) hlast
        exact hout a (mem_out_perform ha fun h => ho (h.symm.trans hidentity)) hidentity

/-- Whether a holder is through with a namespace: it has let go of every handle, and what it did last about
the namespace, if anything, was to release it. -/
structure Through (steps : List LockStep) (n : Identity) (holder : Nat) : Prop where
  out : ∀ a ∈ (after steps).out, a.holder = holder → a.identity ≠ n
  last : ∀ o, ((steps.filter (·.identity = n)).filter (·.holder = holder)).getLast? = some o →
    o = .release holder n

theorem current?_of_through {steps : List LockStep} {n : Identity}
    (h : ∀ holder, Through steps n holder) : (after steps).table.current? n = none := by
  refine current?_after_eq_none (fun a ha => (h a.holder).out a ha rfl) ?_
  intro o ho
  -- the last step on the namespace is also the last one of its own holder
  obtain ⟨front, hfront⟩ := List.getLast?_eq_some_iff.mp ho
  refine ⟨o.holder, (h o.holder).last o ?_⟩
  rw [hfront, List.filter_append, List.filter_cons_of_pos (by simp), List.filter_nil, List.getLast?_concat]

example :
    let n : Identity := ⟨"7", by decide⟩
    let kept : List LockStep := [.take 0 n, .take 1 n, .drop 0 n, .release 0 n]
    (after kept).table.current? n = some ⟨0⟩ ∧
      (after (kept ++ [.drop 1 n, .release 1 n])).table.current? n = none := by decide

end Holding

/-! ## Operations among the holders -/

/-- Asking for the lock of a namespace, letting go of it and releasing it. -/
def LockStep.passage (holder : Nat) (n : Identity) : List LockStep :=
  [.take holder n, .drop holder n, .release holder n]

namespace Holding

theorem after_append_passage (steps : List LockStep) (holder : Nat) (n : Identity) :
    (after (steps ++ LockStep.passage holder n)).table = (after steps).table.passage n ∧
      (after (steps ++ LockStep.passage holder n)).out = (after steps).out := by
  rw [after_append]
  simp [LockStep.passage, LockStep.perform, LockTable.passage]

end Holding

variable {σ : Type}

namespace Operation

/-- The namespace whose lock an operation works under. -/
def works? (o : Operation) (s : Shaper σ) (w : σ) : Option Identity :=
  if o.isBlank then none else o.found? s w

/-- What an operation does about locks, if it is the work of a holder. -/
def lockSteps (o : Operation) (s : Shaper σ) (w : σ) (holder : Nat) : List LockStep :=
  (o.works? s w).elim [] (LockStep.passage holder)

theorem locks_perform_eq_after {steps : List LockStep} {c : Cache}
    (hlocks : c.locks = (Holding.after steps).table) (o : Operation) (s : Shaper σ) (w : σ) (holder : Nat) :
    (o.perform s c w).2.1.locks = (Holding.after (steps ++ o.lockSteps s w holder)).table := by
  rw [lockSteps, works?]
  cases hblank : o.isBlank with
  | true =>
      rw [locks_perform_of_isBlank hblank, hlocks]
      simp
  | false =>
      rw [locks_perform hblank, hlocks, if_neg (by simp)]
      cases o.found? s w with
      | none => simp
      | some n => exact (Holding.after_append_passage steps holder n).1.symm

theorem out_after_lockSteps (o : Operation) (s : Shaper σ) (w : σ) (steps : List LockStep) (holder : Nat) :
    (Holding.after (steps ++ o.lockSteps s w holder)).out = (Holding.after steps).out := by
  rw [lockSteps]
  cases o.works? s w with
  | none => simp
  | some n => exact (Holding.after_append_passage steps holder n).2

theorem current?_locks_perform {steps : List LockStep} {c : Cache}
    (hlocks : c.locks = (Holding.after steps).table) (o : Operation) (s : Shaper σ) (w : σ) (m : Identity) :
    (o.perform s c w).2.1.locks.current? m =
      if o.works? s w = some m ∧ ∀ a ∈ (Holding.after steps).out, a.identity ≠ m then none
      else c.locks.current? m := by
  rw [locks_perform_eq_after hlocks o s w 0, hlocks, lockSteps]
  cases o.works? s w with
  | none => simp
  | some n =>
      rw [Option.elim_some, (Holding.after_append_passage steps 0 n).1,
        (Holding.sound_after steps).current?_passage]
      by_cases hm : m = n
      · simp [hm]
      · rw [if_neg fun h => hm h.1, if_neg fun h => hm (Option.some.inj h.1).symm]

end Operation

/-- A shaper that nobody else takes locks from has none left after any run. -/
theorem Shaper.current?_locks_run (s : Shaper σ) (os : List Operation) (w : σ) (n : Identity) :
    (s.run os ({}, w)).1.locks.current? n = none := by
  have hrun : ∃ steps, (s.run os ({}, w)).1.locks = (Holding.after steps).table ∧
      (Holding.after steps).out = [] ∧ ∀ m, (s.run os ({}, w)).1.locks.current? m = none := by
    induction os using List.reverseRecOn with
    | nil => exact ⟨[], rfl, rfl, fun _ => rfl⟩
    | append_singleton os o ih =>
        obtain ⟨steps, hlocks, hout, hnone⟩ := ih
        rw [run_append_singleton]
        have hafter := o.locks_perform_eq_after hlocks s (s.run os ({}, w)).2 0
        have hstill := o.out_after_lockSteps s (s.run os ({}, w)).2 steps 0
        refine ⟨_, hafter, hstill.trans hout, fun m => ?_⟩
        have hperform := Operation.current?_locks_perform hlocks o s (s.run os ({}, w)).2 m
        rw [hnone, ite_self] at hperform
        exact hperform
  obtain ⟨-, -, -, hnone⟩ := hrun
  exact hnone n

/-- All who hold a handle for one namespace hold the same lock, which was never handed out for another. A
release or an operation leaves no entry for its namespace unless somebody holds a handle for it, and every
other entry as it was; for the locks an operation is no more than the steps of one more holder. Once all
holders are through with a namespace, it has no entry. -/
theorem Holding.one_lock_while_held (steps : List LockStep) :
    let x := after steps
    (∀ a ∈ x.out, ∀ b ∈ x.out, a.identity = b.identity → a.lock = b.lock) ∧
    (x.out ⊆ x.handed ∧ ∀ a ∈ x.handed, ∀ b ∈ x.handed, a.identity ≠ b.identity → a.lock ≠ b.lock) ∧
    (∀ n, ∀ a ∈ x.out, (x.table.release n).current? a.identity = some a.lock) ∧
    (∀ n m, (x.table.release n).current? m =
      if m = n ∧ ∀ a ∈ x.out, a.identity ≠ n then none else x.table.current? m) ∧
    (∀ n, (∀ holder, Through steps n holder) → x.table.current? n = none) ∧
    ∀ {σ : Type} (s : Shaper σ) (o : Operation) (shapes : Dict Shape) (w : σ),
      let locks := (o.perform s ⟨shapes, x.table⟩ w).2.1.locks
      (∀ m, locks.current? m =
        if o.works? s w = some m ∧ ∀ a ∈ x.out, a.identity ≠ m then none else x.table.current? m) ∧
      ∀ holder, locks = (after (steps ++ o.lockSteps s w holder)).table ∧
        (after (steps ++ o.lockSteps s w holder)).out = x.out := by
  intro x
  have hsound : x.Sound := sound_after steps
  refine ⟨?_, ⟨hsound.handed, ?_⟩, fun n a ha => hsound.current?_release_of_mem_out ha n,
    hsound.current?_release, fun n => current?_of_through, ?_⟩
  · intro a ha b hb hidentity
    have hcurrent := hsound.current a ha
    rw [hidentity, hsound.current b hb] at hcurrent
    exact (Option.some.inj hcurrent).symm
  · intro a ha b hb hne hlock
    exact hne (hsound.apart a ha b hb hlock)
  · intro σ s o shapes w locks
    have hlocks : (Cache.mk shapes x.table).locks = (after steps).table := rfl
    refine ⟨Operation.current?_locks_perform hlocks o s w, fun holder => ⟨?_, ?_⟩⟩
    · exact o.locks_perform_eq_after hlocks s w holder
    · exact o.out_after_lockSteps s w steps holder

end TrafficShaping
