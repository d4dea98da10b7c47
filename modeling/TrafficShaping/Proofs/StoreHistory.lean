import TrafficShaping.Proofs.ByteOrder
import TrafficShaping.Proofs.WatchedStore
import Mathlib.Data.List.Induction

/-!
# What a store holds after any operations

A store is filled by whole records, by the events of single containers, and emptied by bulk removals that look
at each record. Still what it knows of one container is a matter of that container alone. An operation concerns
a container if it is of that container or rejects its record, and all others may be left out of a run without
a difference to it.

Of the operations that concern a container only those since its last removal count. They are read from the
latest one back: the first of them says what state the container is in and which process it has; its name is
the first one that is met, but a whole record ends the search, even if it has none.
-/

namespace TrafficShaping

/-! ## Operations on a store -/

/-- What can be done to a store. -/
inductive StoreOperation where
  | upsert (c : Container)
  | apply (e : LifeEvent)
  | retain (keep : Container → Bool)

namespace StoreOperation

def perform (s : Store) : StoreOperation → Store
  | .upsert c => s.upsert c
  | .apply e => s.apply e
  | .retain keep => s.retain keep

/-- What an operation makes of what is known about a container. -/
def entry (id : String) (before : Option Container) : StoreOperation → Option Container
  | .upsert c => if id = c.id then some c else before
  | .apply e => if id = e.id then e.entry before else before
  | .retain keep => before.filter keep

theorem lookup_perform (s : Store) (o : StoreOperation) (id : String) :
    (o.perform s).lookup id = o.entry id (s.lookup id) := by
  cases o with
  | upsert c => exact s.lookup_upsert c id
  | apply e =>
      rw [perform, Store.lookup_apply, entry]
      split
      · next hid => rw [hid]
      · rfl
  | retain keep => exact s.lookup_retain keep id

theorem keyed_perform {s : Store} (h : s.Keyed) (o : StoreOperation) : (o.perform s).Keyed := by
  cases o with
  | upsert c => exact h.upsert c
  | apply e => exact h.apply e
  | retain keep => exact h.retain keep

/-- Whether an operation concerns a container of which so much is known: it is of the container itself, or it
rejects the record of it. -/
def concerns (id : String) (known : Option Container) : StoreOperation → Bool
  | .upsert c => c.id = id
  | .apply e => e.id = id
  | .retain keep => known.any fun c => !keep c

/-- Whether a container is gone after an operation that concerns it. -/
def isRemoval : StoreOperation → Bool
  | .apply (.destroyed _) | .retain _ => true
  | .upsert _ | .apply (.created _ _) | .apply (.started _ _ _) | .apply (.stopped _) => false

/-- The state and the process that an operation leaves its container with. -/
def condition? : StoreOperation → Option (LifeState × Pid)
  | .upsert c => some (c.state, c.pid)
  | .apply (.created _ _) => some (.created, 0)
  | .apply (.started _ _ pid) => some (.running, pid)
  | .apply (.stopped _) => some (.stopped, 0)
  | .apply (.destroyed _) | .retain _ => none

/-- The name that an event gives its container. -/
def eventName? : StoreOperation → Option String
  | .apply (.created _ name) | .apply (.started _ name _) => name
  | .apply (.stopped _) | .apply (.destroyed _) | .upsert _ | .retain _ => none

def record? : StoreOperation → Option Container
  | .upsert c => some c
  | .apply _ | .retain _ => none

theorem entry_of_not_concerns {id : String} {before : Option Container} {o : StoreOperation}
    (h : o.concerns id before = false) : o.entry id before = before := by
  cases o with
  | upsert c =>
      have hid : c.id ≠ id := of_decide_eq_false h
      exact if_neg (Ne.symm hid)
  | apply e =>
      have hid : e.id ≠ id := of_decide_eq_false h
      exact if_neg (Ne.symm hid)
  | retain keep =>
      cases before with
      | none => rfl
      | some c =>
          have hkeep : keep c = true := by simpa [concerns] using h
          exact Option.filter_some_pos hkeep

theorem entry_of_isRemoval {id : String} {before : Option Container} {o : StoreOperation}
    (h : o.concerns id before) (hremoval : o.isRemoval) : o.entry id before = none := by
  cases o with
  | upsert c => cases hremoval
  | retain keep =>
      cases before with
      | none => rfl
      | some c =>
          have hkeep : keep c = false := by simpa [concerns] using h
          exact Option.filter_some_neg (by simp [hkeep])
  | apply e =>
      cases e with
      | created other name | started other name pid | stopped other => cases hremoval
      | destroyed other =>
          have hid : other = id := of_decide_eq_true h
          exact if_pos hid.symm

end StoreOperation

namespace Store

/-- Where operations lead, one after the other. -/
def run (ops : List StoreOperation) (s : Store) : Store := ops.foldl StoreOperation.perform s

theorem run_append (ops more : List StoreOperation) (s : Store) :
    run (ops ++ more) s = run more (run ops s) := List.foldl_append

theorem keyed_run (ops : List StoreOperation) {s : Store} (h : s.Keyed) : (run ops s).Keyed := by
  induction ops generalizing s with
  | nil => exact h
  | cons o ops ih => exact ih (StoreOperation.keyed_perform h o)

/-! ## What concerns one container -/

/-- The operations of a run that concern a container, in order. -/
def concerning (id : String) : List StoreOperation → Store → List StoreOperation
  | [], _ => []
  | o :: ops, s =>
    if o.concerns id (s.lookup id) then o :: concerning id ops (o.perform s)
    else concerning id ops (o.perform s)

/-- The operations that concern a container since its last removal in a run from the empty store, the latest
one first. -/
def sinceRemoval (id : String) (ops : List StoreOperation) : List StoreOperation :=
  (concerning id ops {}).reverse.takeWhile fun o => !o.isRemoval

/-- Only what concerns a container makes a difference to what is known about it. -/
theorem lookup_run_concerning {id : String} (ops : List StoreOperation) {s t : Store}
    (h : s.lookup id = t.lookup id) :
    (run ops s).lookup id = (run (concerning id ops s) t).lookup id := by
  induction ops generalizing s t with
  | nil => exact h
  | cons o ops ih =>
      have hstep : (o.perform s).lookup id = o.entry id (s.lookup id) := o.lookup_perform s id
      rw [concerning]
      split
      · refine ih (t := o.perform t) ?_
        rw [hstep, h, o.lookup_perform t id]
      · next hnot =>
          refine ih ?_
          rw [hstep, StoreOperation.entry_of_not_concerns (by simpa using hnot), h]

theorem concerning_append_singleton (id : String) (ops : List StoreOperation) (o : StoreOperation)
    (s : Store) : concerning id (ops ++ [o]) s =
      concerning id ops s ++ if o.concerns id ((run ops s).lookup id) then [o] else [] := by
  induction ops generalizing s with
  | nil => rfl
  | cons p ops ih =>
      rw [List.cons_append, concerning, concerning, ih]
      split <;> rfl

theorem sinceRemoval_append_singleton (id : String) (ops : List StoreOperation) (o : StoreOperation) :
    sinceRemoval id (ops ++ [o]) =
      if o.concerns id ((run ops {}).lookup id) then
        if o.isRemoval then [] else o :: sinceRemoval id ops
      else sinceRemoval id ops := by
  rw [sinceRemoval, concerning_append_singleton]
  split
  · rw [List.reverse_append, List.reverse_singleton, List.singleton_append, List.takeWhile_cons]
    cases o.isRemoval <;> rfl
  · rw [List.append_nil]
    rfl

end Store

/-! ## What is told of one container

The induction is on the run, and what it keeps is that the record is the one that is read from the operations
since the last removal. A removal empties both. An operation that is no removal puts itself in front of these
operations and leaves a record, of which it decides the state and the process, and the name if it gives one. -/

/-- Whether a record is what operations on a container, the latest one first, say of it. -/
structure Container.Told (c : Container) (id : String) (since : List StoreOperation) : Prop where
  key : c.id = id
  condition : since.findSome? StoreOperation.condition? = some (c.state, c.pid)
  name : c.name = ((since.takeWhile fun o => o.record?.isNone).findSome? StoreOperation.eventName?).or
    ((since.findSome? StoreOperation.record?).bind (·.name))

/-- Whether what is known about a container is what operations say of it, or both are nothing. -/
def ToldOf (id : String) (since : List StoreOperation) : Option Container → Prop
  | none => since = []
  | some c => c.Told id since

theorem Container.told_upsert (c : Container) (since : List StoreOperation) :
    c.Told c.id (.upsert c :: since) where
  key := rfl
  condition := rfl
  name := rfl

theorem Container.told_applyTo {e : LifeEvent} {before : Option Container} {since : List StoreOperation}
    (hremoval : (StoreOperation.apply e).isRemoval = false) (h : ToldOf e.id since before) :
    (e.applyTo (before.getD { id := e.id })).Told e.id (.apply e :: since) := by
  have hname : StoreOperation.eventName? (.apply e) = e.name? := by cases e <;> rfl
  constructor
  · cases before with
    | none => rfl
    | some c => exact h.key
  · cases e with
    | created id name | started id name pid | stopped id => rfl
    | destroyed id => cases hremoval
  · show e.name?.or (before.getD { id := e.id }).name = _
    rw [List.takeWhile_cons_of_pos rfl, List.findSome?_cons, List.findSome?_cons, hname]
    cases e.name? with
    | some name => rfl
    | none =>
        cases before with
        | none =>
            obtain rfl : since = [] := h
            rfl
        | some c => exact h.name

theorem StoreOperation.toldOf_entry {id : String} {o : StoreOperation} {before : Option Container}
    {since : List StoreOperation} (ho : o.concerns id before) (hremoval : o.isRemoval = false)
    (h : ToldOf id since before) : ToldOf id (o :: since) (o.entry id before) := by
  cases o with
  | retain keep => cases hremoval
  | upsert c =>
      obtain rfl : c.id = id := of_decide_eq_true ho
      rw [entry, if_pos rfl]
      exact c.told_upsert since
  | apply e =>
      obtain rfl : e.id = id := of_decide_eq_true ho
      have hentry : e.entry before = some (e.applyTo (before.getD { id := e.id })) := by
        cases e with
        | created id name | started id name pid | stopped id => rfl
        | destroyed id => cases hremoval
      rw [entry, if_pos rfl, hentry]
      exact Container.told_applyTo hremoval h

theorem Store.toldOf_lookup_run (id : String) (ops : List StoreOperation) :
    ToldOf id (sinceRemoval id ops) ((run ops {}).lookup id) := by
  induction ops using List.reverseRecOn with
  | nil => rfl
  | append_singleton ops o ih =>
      have hstep : (run (ops ++ [o]) {}).lookup id = o.entry id ((run ops {}).lookup id) := by
        rw [run_append]
        exact o.lookup_perform (run ops {}) id
      rw [hstep, sinceRemoval_append_singleton]
      split
      · next ho =>
          split
          · next hremoval =>
              rw [StoreOperation.entry_of_isRemoval ho hremoval]
              rfl
          · next hremoval => exact StoreOperation.toldOf_entry ho (by simpa using hremoval) ih
      · next ho =>
          rw [StoreOperation.entry_of_not_concerns (by simpa using ho)]
          exact ih

/-! ## Counting and listing -/

namespace Store

/-- As many containers are known as the size says, each counted once. -/
theorem exists_ids (s : Store) : ∃ ids : List String, ids.Nodup ∧
    (∀ id, id ∈ ids ↔ (s.lookup id).isSome) ∧ s.size = ids.length :=
  ⟨s.records.keys, s.records.nodup_keys, fun _ => Dict.mem_keys_iff, (List.length_map _).symm⟩

/-- As many containers go as are known before and not afterwards. -/
theorem exists_removed (s : Store) (keep : Container → Bool) : ∃ ids : List String, ids.Nodup ∧
    (∀ id, id ∈ ids ↔ (s.lookup id).isSome ∧ (s.retain keep).lookup id = none) ∧
      s.removed keep = ids.length := by
  have hlookup : ∀ id, (s.retain keep).lookup id = (s.lookup id).filter keep := s.lookup_retain keep
  refine ⟨(s.records.filter fun _ c => !keep c).keys, (s.records.filter _).nodup_keys, fun id => ?_, ?_⟩
  · rw [Dict.mem_keys_iff, Dict.get?_filter, hlookup]
    show ((s.lookup id).filter fun c => !keep c).isSome ↔ _
    cases s.lookup id with
    | none => simp
    | some c => cases hkeep : keep c <;> simp [Option.filter, hkeep]
  · have hsplit := List.length_eq_length_filter_add (l := s.records.entries) fun e => keep e.2
    show s.records.entries.length - (s.records.entries.filter fun e => keep e.2).length = _
    rw [Dict.keys, List.length_map, hsplit, Nat.add_sub_cancel_left]
    rfl

theorem isEmpty_iff (s : Store) : s.isEmpty ↔ s.size = 0 := by
  rw [isEmpty, size, Dict.isEmpty, Dict.size, List.isEmpty_iff_length_eq_zero]

/-- A snapshot is in strictly increasing order of the bytes of the ids. -/
theorem increasing_snapshot {s : Store} (h : s.Keyed) :
    (s.snapshot.map (·.id)).Pairwise fun a b => Text.Utf8.encode a < Text.Utf8.encode b := by
  rw [map_id_snapshot h, Dict.keys, List.pairwise_map]
  exact s.records.increasing.imp Text.Utf8.encode_lt

end Store

open Store in
/-- What is known after any operations on an empty store. Only the operations that concern a container make a
difference to what is known about it. It is not known exactly if it was neither recorded nor created, started or
stopped since its last removal; otherwise the record stands under its id, has the state and the process that the
last of these operations says, and as name the last one that an event has given it since it was recorded or
removed, or else the one that it was recorded with. The size is the number of containers that are known, a
bulk removal says how many containers it removes, and a snapshot has every record once, in strictly increasing
order of the bytes of the ids. -/
theorem record_is_last_told (ops : List StoreOperation) :
    let s := run ops {}
    (∀ id, s.lookup id = (run (concerning id ops {}) {}).lookup id ∧
      (s.lookup id = none ↔ ∀ o ∈ sinceRemoval id ops, o.condition? = none) ∧
      ∀ c, s.lookup id = some c → c.id = id ∧
        (sinceRemoval id ops).findSome? StoreOperation.condition? = some (c.state, c.pid) ∧
        c.name = (((sinceRemoval id ops).takeWhile fun o => o.record?.isNone).findSome?
            StoreOperation.eventName?).or
          (((sinceRemoval id ops).findSome? StoreOperation.record?).bind (·.name))) ∧
    (∃ ids : List String, ids.Nodup ∧ (∀ id, id ∈ ids ↔ (s.lookup id).isSome) ∧ s.size = ids.length) ∧
    (s.isEmpty ↔ s.size = 0) ∧
    (∀ keep, ∃ ids : List String, ids.Nodup ∧
      (∀ id, id ∈ ids ↔ (s.lookup id).isSome ∧ (s.retain keep).lookup id = none) ∧
        s.removed keep = ids.length) ∧
    (∀ c, c ∈ s.snapshot ↔ s.lookup c.id = some c) ∧
    (s.snapshot.map (·.id)).Pairwise fun a b => Text.Utf8.encode a < Text.Utf8.encode b := by
  intro s
  have hkeyed : s.Keyed := keyed_run ops keyed_empty
  refine ⟨fun id => ⟨lookup_run_concerning ops rfl, ?_, ?_⟩, s.exists_ids, s.isEmpty_iff, s.exists_removed,
    fun c => mem_snapshot_iff hkeyed, increasing_snapshot hkeyed⟩
  · have htold : ToldOf id (sinceRemoval id ops) (s.lookup id) := toldOf_lookup_run id ops
    rw [← List.findSome?_eq_none_iff]
    cases hlookup : s.lookup id with
    | none =>
        rw [hlookup] at htold
        rw [show sinceRemoval id ops = [] from htold]
        exact iff_of_true rfl rfl
    | some c =>
        rw [hlookup] at htold
        rw [htold.condition]
        exact iff_of_false (Option.some_ne_none c) (Option.some_ne_none _)
  · intro c hlookup
    have htold : ToldOf id (sinceRemoval id ops) (s.lookup id) := toldOf_lookup_run id ops
    rw [hlookup] at htold
    exact ⟨htold.key, htold.condition, htold.name⟩

end TrafficShaping
