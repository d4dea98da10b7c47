import TrafficShaping.Proofs.Convergence
import TrafficShaping.Proofs.RunningProcesses
import TrafficShaping.Proofs.StoreHistory

/-!
# What a sync leaves of every container

A sync is a loop over the listed containers that fills two collections, the store and the list of what is still
there, and a bulk removal of what is in the first and not in the second. Both collections are made of the answers
to the inspections, one by one, so a sync is a function of these answers and of the store that it began with
(`Store.settle`), and the daemon behind them may be forgotten.

Of one container that function says little: the answer about it is the only one that counts, as long as no other
answer carries its id. Then the store holds the record of its inspection, or what it held before if there is no
record, and the container is removed if it is not listed or on its way out. To do the same twice is to do it
once, because an answer that leaves a record as it was leaves any record as it was.
-/

namespace TrafficShaping

open Daemon (Inspection)

namespace Daemon

variable {σ : Type}

/-! ## The answers -/

/-- What the inspections of listed containers answer, one after the other; none is a failure. -/
def answers (d : Daemon σ) : List String → σ → List (String × Option Inspection)
  | [], _ => []
  | id :: ids, w => (id, (d.inspect id w).1) :: d.answers ids (d.inspect id w).2

/-- Whether a daemon lists containers, none of them twice, and gives these answers about them. -/
structure Lists (d : Daemon σ) (w : σ) (answers : List (String × Option Inspection)) : Prop where
  answered : ∃ ids v, d.list w = (some ids, v) ∧ d.answers (ids.filterMap fun listed => listed) v = answers
  nodup : (answers.map (·.1)).Nodup

/-- Whether every inspection carries the id that was asked for, or none. -/
def Own (answers : List (String × Option Inspection)) : Prop :=
  ∀ id i, (id, some i) ∈ answers → i.id = some id ∨ i.id = none

/-- Whether a container that was listed is still there by the answer about it. -/
def stays (answer : Option Inspection) : Bool :=
  (answer.bind Inspection.record?).all fun c => c.state ≠ .destroyed

/-- The record that an answer leaves of a container. -/
def kept (id : String) (answer : Option Inspection) : Option Container :=
  (answer.bind Inspection.record?).filter fun c => c.state ≠ .destroyed ∧ c.id = id

theorem Inspection.id_of_record? {i : Inspection} {c : Container} (h : i.record? = some c) :
    i.id = some c.id := by
  obtain ⟨id, hid, rfl⟩ := Option.map_eq_some_iff.mp h
  exact hid

theorem kept_of_id_ne {id : String} {i : Inspection} (h : i.id ≠ some id) : kept id (some i) = none := by
  rw [kept, Option.filter_eq_none_iff]
  intro c hc hkept
  have hid : c.id = id := (of_decide_eq_true hkept).2
  exact h (hid ▸ Inspection.id_of_record? hc)

theorem Own.id_eq {answers : List (String × Option Inspection)} (h : Own answers) {id : String} {i : Inspection}
    {c : Container} (hmem : (id, some i) ∈ answers) (hrecord : i.record? = some c) : c.id = id := by
  have hcarried : i.id = some c.id := Inspection.id_of_record? hrecord
  rcases h id i hmem with hsame | hnone
  · exact Option.some.inj (hcarried.symm.trans hsame)
  · cases hnone.symm.trans hcarried

theorem Own.id_ne {answers : List (String × Option Inspection)} (h : Own answers) (id : String) :
    ∀ k i, (k, some i) ∈ answers → k ≠ id → i.id ≠ some id := by
  intro k i hmem hne hid
  rcases h k i hmem with hown | hnone
  · exact hne (Option.some.inj (hown.symm.trans hid))
  · rw [hnone] at hid
    cases hid

theorem inspections_eq (d : Daemon σ) (ids : List String) (w : σ) :
    d.inspections ids w = (d.answers ids w).filterMap (·.2) := by
  induction ids generalizing w with
  | nil => rfl
  | cons id ids ih =>
      rw [inspections, answers, List.filterMap_cons, ih]
      cases (d.inspect id w).1 <;> rfl

theorem fst_inspectAll (d : Daemon σ) (ids : List String) (s : Store) (w : σ) :
    (d.inspectAll ids s w).1 = ((d.answers ids w).filter fun a => stays a.2).map (·.1) := by
  induction ids generalizing s w with
  | nil => rfl
  | cons id ids ih =>
      have hrecord : d.record? id w = ((d.inspect id w).1.bind Inspection.record?, (d.inspect id w).2) :=
        rfl
      rw [inspectAll, answers, List.filter_cons, hrecord]
      cases hfound : (d.inspect id w).1.bind Inspection.record? with
      | none =>
          rw [if_pos (by simp [stays, hfound]), List.map_cons]
          exact congrArg (id :: ·) (ih s _)
      | some c =>
          simp only
          split
          · next hgone =>
              rw [if_neg (by simp [stays, hfound, hgone])]
              exact ih s _
          · next hthere =>
              rw [if_pos (by simp [stays, hfound, hthere]), List.map_cons]
              exact congrArg (id :: ·) (ih _ _)

end Daemon

/-! ## Settling -/

namespace Store

/-- What a sync makes of a store, by the answers about the listed containers. -/
def settle (s : Store) (answers : List (String × Option Inspection)) : Store :=
  ((answers.filterMap (·.2)).foldl note s).retain fun c =>
    ((answers.filter fun a => Daemon.stays a.2).map (·.1)).contains c.id

theorem Keyed.note {s : Store} (h : s.Keyed) (i : Inspection) : (s.note i).Keyed := by
  rw [Store.note]
  split
  · split
    · exact h
    · exact h.upsert _
  · exact h

theorem Keyed.foldl_note {s : Store} (h : s.Keyed) (is : List Inspection) : (is.foldl Store.note s).Keyed := by
  induction is generalizing s with
  | nil => exact h
  | cons i is ih => exact ih (h.note i)

theorem Keyed.settle {s : Store} (h : s.Keyed) (answers : List (String × Option Inspection)) :
    (s.settle answers).Keyed :=
  (h.foldl_note _).retain _

end Store

theorem Daemon.sync_of_list_eq_none {σ : Type} {d : Daemon σ} {w : σ} (h : (d.list w).1 = none) (s : Store) :
    d.sync s w = (.error .client, s, (d.list w).2) := by
  rw [sync, show d.list w = (none, (d.list w).2) from Prod.ext h rfl]

theorem Daemon.Lists.sync_eq {σ : Type} {d : Daemon σ} {w : σ} {answers : List (String × Option Inspection)}
    (h : d.Lists w answers) (s : Store) :
    (d.sync s w).1 = .ok () ∧ (d.sync s w).2.1 = s.settle answers := by
  obtain ⟨ids, v, hlist, rfl⟩ := h.answered
  rw [sync, hlist]
  refine ⟨rfl, ?_⟩
  show Store.retain _ _ = _
  rw [d.store_inspectAll, d.fst_inspectAll, d.inspections_eq]
  rfl

/-! ## One container -/

namespace Store

variable {s : Store} {id : String} {answers : List (String × Option Inspection)}

/-- What a sync makes of an answer. -/
def heed (s : Store) (answer : Option Inspection) : Store := answer.elim s s.note

theorem lookup_heed (s : Store) (answer : Option Inspection) (id : String) :
    (s.heed answer).lookup id = (Daemon.kept id answer).or (s.lookup id) := by
  cases answer with
  | none => rfl
  | some i =>
      show (s.note i).lookup id = (i.record?.filter _).or (s.lookup id)
      rw [note]
      cases i.record? with
      | none => rfl
      | some c =>
          simp only
          split
          · next hgone => rw [Option.filter_some_neg (by simp [hgone]), Option.none_or]
          · next hthere =>
              rw [lookup_upsert]
              split
              · next hid => rw [Option.filter_some_pos (by simp [hthere, hid]), Option.some_or]
              · next hid => rw [Option.filter_some_neg (by simp [Ne.symm hid]), Option.none_or]

theorem foldl_note_cons (a : String × Option Inspection) (answers : List (String × Option Inspection))
    (s : Store) : ((a :: answers).filterMap (·.2)).foldl note s =
      (answers.filterMap (·.2)).foldl note (s.heed a.2) := by
  rw [List.filterMap_cons]
  cases a.2 <;> rfl

/-- Of the answers about distinct containers only the one about a container itself can change what is known of
it, if no other one carries its id. -/
theorem lookup_foldl_note (hnodup : (answers.map (·.1)).Nodup)
    (hown : ∀ k i, (k, some i) ∈ answers → k ≠ id → i.id ≠ some id) :
    ((answers.filterMap (·.2)).foldl note s).lookup id =
      ((answers.lookup id).bind (Daemon.kept id)).or (s.lookup id) := by
  induction answers generalizing s with
  | nil => rfl
  | cons a answers ih =>
      obtain ⟨k, answer⟩ := a
      obtain ⟨hfresh, hrest⟩ := List.nodup_cons.mp hnodup
      rw [foldl_note_cons, ih hrest fun k i h => hown k i (List.mem_cons_of_mem _ h), lookup_heed,
        Dict.lookup_cons]
      split
      · next hid =>
          have hnone : answers.lookup id = none := by
            refine Option.eq_none_iff_forall_ne_some.mpr fun other h => hfresh ?_
            exact List.mem_map.mpr ⟨_, Dict.mem_of_lookup h, hid⟩
          rw [hnone]
          rfl
      · next hid =>
          have hforeign : Daemon.kept id answer = none := by
            cases answer with
            | none => rfl
            | some i => exact Daemon.kept_of_id_ne (hown k i List.mem_cons_self (Ne.symm hid))
          rw [hforeign, Option.none_or]

theorem contains_listed (hnodup : (answers.map (·.1)).Nodup) :
    ((answers.filter fun a => Daemon.stays a.2).map (·.1)).contains id =
      (answers.lookup id).any Daemon.stays := by
  rw [Bool.eq_iff_iff, List.contains_iff_mem, List.mem_map, Option.any_eq_true]
  constructor
  · rintro ⟨⟨k, answer⟩, hmem, rfl⟩
    obtain ⟨hanswer, hstays⟩ := List.mem_filter.mp hmem
    exact ⟨answer, Dict.lookup_of_mem hnodup hanswer, hstays⟩
  · rintro ⟨answer, hlookup, hstays⟩
    exact ⟨(id, answer), List.mem_filter.mpr ⟨Dict.mem_of_lookup hlookup, hstays⟩, rfl⟩

theorem Keyed.lookup_retain_id {t : Store} (h : t.Keyed) (keep : String → Bool) (id : String) :
    (t.retain fun c => keep c.id).lookup id = if keep id then t.lookup id else none := by
  rw [lookup_retain]
  cases hlookup : t.lookup id with
  | none => exact (ite_self none).symm
  | some c => rw [Option.filter, h id c hlookup]

/-- What is known about a container after a sync: the record of its inspection, what was known before where
there is no record, and nothing if it is not listed or on its way out. -/
theorem lookup_settle (hs : s.Keyed) (hnodup : (answers.map (·.1)).Nodup)
    (hown : ∀ k i, (k, some i) ∈ answers → k ≠ id → i.id ≠ some id) :
    (s.settle answers).lookup id = (answers.lookup id).bind fun answer =>
      if Daemon.stays answer then (Daemon.kept id answer).or (s.lookup id) else none := by
  rw [settle, (hs.foldl_note _).lookup_retain_id, contains_listed hnodup, lookup_foldl_note hnodup hown]
  cases answers.lookup id with
  | none => rfl
  | some answer => rfl

theorem lookup_settle_of_mem (hs : s.Keyed) (hnodup : (answers.map (·.1)).Nodup)
    (hown : ∀ k i, (k, some i) ∈ answers → k ≠ id → i.id ≠ some id) {answer : Option Inspection}
    (h : (id, answer) ∈ answers) : (s.settle answers).lookup id =
      if Daemon.stays answer then (Daemon.kept id answer).or (s.lookup id) else none := by
  rw [lookup_settle hs hnodup hown, Dict.lookup_of_mem hnodup h]
  rfl

theorem lookup_settle_of_record (hs : s.Keyed) (hnodup : (answers.map (·.1)).Nodup)
    (hown : ∀ k i, (k, some i) ∈ answers → k ≠ id → i.id ≠ some id) {i : Inspection} {c : Container}
    (h : (id, some i) ∈ answers) (hrecord : i.record? = some c) (hthere : c.state ≠ .destroyed) :
    (s.settle answers).lookup id = if c.id = id then some c else s.lookup id := by
  rw [lookup_settle_of_mem hs hnodup hown h, if_pos (by simp [Daemon.stays, hrecord, hthere]), Daemon.kept,
    Option.bind_some, hrecord]
  split
  · next hid => rw [Option.filter_some_pos (by simp [hthere, hid]), Option.some_or]
  · next hid => rw [Option.filter_some_neg (by simp [hid]), Option.none_or]

theorem ext_lookup {s t : Store} (h : ∀ id, s.lookup id = t.lookup id) : s = t :=
  congrArg Store.mk (Dict.ext_get? h)

theorem settle_settle (hs : s.Keyed) (hnodup : (answers.map (·.1)).Nodup)
    (hown : Daemon.Own answers) : (s.settle answers).settle answers = s.settle answers := by
  refine ext_lookup fun id => ?_
  rw [lookup_settle (hs.settle answers) hnodup (hown.id_ne id), lookup_settle hs hnodup (hown.id_ne id)]
  cases answers.lookup id with
  | none => rfl
  | some answer =>
      show ite _ _ _ = ite _ _ _
      split
      · next hstays =>
          rw [Option.bind_some, if_pos hstays]
          cases Daemon.kept id answer <;> rfl
      · rfl

end Store

/-- A sync whose list cannot be had changes nothing and says so. Of a daemon that lists no container twice, and
whose inspections carry the id that was asked for or none, a sync always succeeds, whichever inspections fail.
Afterwards the store holds the record of every listed container that was inspected to one and is not being
removed; what it held before of those whose inspection failed or carried no id; and nothing of those that are
not listed or are being removed. What it holds of a container depends on the answer about that container alone,
and a second sync with the same answers changes nothing. -/
theorem sync_follows_inspections {σ : Type} (d : Daemon σ) {s : Store} (hs : s.Keyed) (w : σ) :
    ((d.list w).1 = none → (d.sync s w).1 = .error .client ∧ (d.sync s w).2.1 = s) ∧
    ∀ answers, d.Lists w answers → Daemon.Own answers →
      let after := (d.sync s w).2.1
      (d.sync s w).1 = .ok () ∧
      (∀ id i c, (id, some i) ∈ answers → i.record? = some c → c.state ≠ .destroyed →
        after.lookup id = some c) ∧
      (∀ id answer, (id, answer) ∈ answers → (∀ i, answer = some i → i.id = none) →
        after.lookup id = s.lookup id) ∧
      (∀ id i c, (id, some i) ∈ answers → i.record? = some c → i.status = some .removing →
        after.lookup id = none) ∧
      (∀ id, (∀ answer, (id, answer) ∉ answers) → after.lookup id = none) ∧
      (∀ {τ : Type} (d' : Daemon τ) (w' : τ) answers', d'.Lists w' answers' → Daemon.Own answers' →
        ∀ id, answers'.lookup id = answers.lookup id →
          (d'.sync s w').2.1.lookup id = after.lookup id) ∧
      ∀ {τ : Type} (d' : Daemon τ) (w' : τ), d'.Lists w' answers →
        (d'.sync after w').1 = .ok () ∧ (d'.sync after w').2.1 = after := by
  refine ⟨fun hlist => by rw [Daemon.sync_of_list_eq_none hlist]; exact ⟨rfl, rfl⟩, ?_⟩
  intro answers hlists hown after
  have hafter : after = s.settle answers := (hlists.sync_eq s).2
  have hlookup : ∀ id, after.lookup id = (answers.lookup id).bind fun answer =>
      if Daemon.stays answer then (Daemon.kept id answer).or (s.lookup id) else none :=
    fun id => hafter ▸ Store.lookup_settle hs hlists.nodup (hown.id_ne id)
  have hmem : ∀ id answer, (id, answer) ∈ answers → after.lookup id =
      if Daemon.stays answer then (Daemon.kept id answer).or (s.lookup id) else none :=
    fun id answer h => hafter ▸ Store.lookup_settle_of_mem hs hlists.nodup (hown.id_ne id) h
  refine ⟨(hlists.sync_eq s).1, ?_, ?_, ?_, ?_, ?_, ?_⟩
  · intro id i c h hrecord hthere
    rw [hafter, Store.lookup_settle_of_record hs hlists.nodup (hown.id_ne id) h hrecord hthere]
    exact if_pos (hown.id_eq h hrecord)
  · intro id answer h hblank
    have hnone : answer.bind Inspection.record? = none :=
      Option.bind_eq_none_iff.mpr fun i hi => by rw [Inspection.record?, hblank i hi, Option.map_none]
    rw [hmem id _ h, if_pos (by rw [Daemon.stays, hnone]; rfl), Daemon.kept, hnone]
    rfl
  · intro id i c h hrecord hremoving
    have hgone : c.state = .destroyed := by
      obtain ⟨k, -, rfl⟩ := Option.map_eq_some_iff.mp hrecord
      show i.state = .destroyed
      rw [Inspection.state, hremoving]
    exact (hmem id _ h).trans (if_neg (by simp [Daemon.stays, hrecord, hgone]))
  · intro id hnot
    have hnone : answers.lookup id = none :=
      Option.eq_none_iff_forall_ne_some.mpr fun answer h => hnot answer (Dict.mem_of_lookup h)
    rw [hlookup, hnone]
    rfl
  · intro τ d' w' answers' hlists' hown' id hsame
    rw [(hlists'.sync_eq s).2, Store.lookup_settle hs hlists'.nodup (hown'.id_ne id), hlookup, hsame]
  · intro τ d' w' hlists'
    obtain ⟨hok, hsettled⟩ := hlists'.sync_eq after
    refine ⟨hok, hsettled.trans ?_⟩
    rw [hafter]
    exact Store.settle_settle hs hlists.nodup hown

/-- Of five containers, one is found running, one cannot be inspected, one is answered without an id, one is
being removed and one is not listed. -/
theorem sync_follows_five_inspections :
    let found : Inspection := { id := some "new", status := some .running, pid := some 7 }
    let blank : Inspection := { status := some .removing }
    let leaving : Inspection := { id := some "old", status := some .removing }
    let d : Daemon Unit := {
      list := fun w => (some [some "new", none, some "shy", some "odd", some "old"], w)
      inspect := fun id w => ([("new", found), ("odd", blank), ("old", leaving)].lookup id, w)
      events := fun _ w => (none, w) }
    let known (id : String) : Container := { id, pid := 3, state := .running }
    let s := Store.run [.upsert (known "shy"), .upsert (known "odd"), .upsert (known "old"),
      .upsert (known "gone")] {}
    let after := (d.sync s ()).2.1
    s.Keyed ∧ (d.sync s ()).1 = .ok () ∧
      after.lookup "new" = some { id := "new", pid := 7, state := .running } ∧
      after.lookup "shy" = some (known "shy") ∧ after.lookup "odd" = some (known "odd") ∧
      after.lookup "old" = none ∧ after.lookup "gone" = none := by
  intro found blank leaving d known s after
  let answers := [("new", some found), ("shy", none), ("odd", some blank), ("old", some leaving)]
  have hs : s.Keyed := Store.keyed_run _ Store.keyed_empty
  have hlists : d.Lists () answers := ⟨⟨_, (), rfl, rfl⟩, by decide⟩
  have hown : Daemon.Own answers := by
    intro id i h
    have hcases : id = "new" ∧ i = found ∨ id = "odd" ∧ i = blank ∨ id = "old" ∧ i = leaving := by
      simpa [answers] using h
    rcases hcases with ⟨rfl, rfl⟩ | ⟨rfl, rfl⟩ | ⟨rfl, rfl⟩
    · exact .inl rfl
    · exact .inr rfl
    · exact .inl rfl
  obtain ⟨hok, hrecord, hblank, hremoving, hunlisted, -, -⟩ :=
    (sync_follows_inspections d hs ()).2 answers hlists hown
  refine ⟨hs, hok, ?_, ?_, ?_, ?_, ?_⟩
  · exact hrecord "new" found _ (by simp [answers]) rfl (by decide)
  · refine (hblank "shy" none (by simp [answers]) fun i hi => by cases hi).trans ?_
    decide
  · refine (hblank "odd" (some blank) (by simp [answers]) fun i hi => ?_).trans ?_
    · rw [← Option.some.inj hi]
    · decide
  · exact hremoving "old" leaving _ (by simp [answers]) rfl rfl
  · exact hunlisted "gone" (by simp [answers])

end TrafficShaping
