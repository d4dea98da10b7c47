import TrafficShaping.Shaping.Cache
import TrafficShaping.Proofs.DictLookup
import Mathlib.Data.List.Induction
import Mathlib.Data.List.Nodup

/-!
# The last write of each dimension

The entries of a cache are what the calls on it have written last. A namespace has an entry exactly if
something was applied to it since it was last cleared, even if that was an unset parameter; and each dimension
of the entry is what was last applied to that dimension since then, or unset if nothing was.

What one call makes of one entry does not depend on any other entry, and a cache is given by its entries. So
everything about the order of calls comes down to an equation between shapes: two dimensions can be set in
either order, and one can be set to the same parameter twice.
-/

namespace TrafficShaping

/-- Caches with the same locks and the same entries are the same. -/
theorem Cache.ext_shapes {a b : Cache} (hlocks : a.locks = b.locks)
    (hshapes : ∀ key, a.shapes.get? key = b.shapes.get? key) : a = b := by
  obtain ⟨shapes, locks⟩ := a
  obtain ⟨shapes', locks'⟩ := b
  obtain rfl : locks = locks' := hlocks
  obtain rfl : shapes = shapes' := Dict.ext_get? hshapes
  rfl

theorem Mutation.get_applyTo (m : Mutation) (s : Shape) (d : Dimension) :
    (m.applyTo s).get d = if d = m.dimension then m.value else s.get d :=
  Shape.get_set s m.dimension d m.value

theorem Mutation.applyTo_comm {m m' : Mutation} (h : m.dimension ≠ m'.dimension) (s : Shape) :
    m'.applyTo (m.applyTo s) = m.applyTo (m'.applyTo s) := by
  obtain ⟨d, p⟩ := m
  obtain ⟨d', p'⟩ := m'
  cases d with
  | latency =>
      cases d' with
      | latency => exact absurd rfl h
      | packetLoss => rfl
  | packetLoss =>
      cases d' with
      | latency => rfl
      | packetLoss => exact absurd rfl h

theorem Mutation.applyTo_applyTo (m : Mutation) (s : Shape) : m.applyTo (m.applyTo s) = m.applyTo s := by
  obtain ⟨d, p⟩ := m
  cases d <;> rfl

theorem Cache.read_apply (c : Cache) (n : Identity) (m : Mutation) :
    (c.apply n m).read n = m.applyTo (c.read n) := by
  rw [read, get?_apply, if_pos rfl]
  rfl

theorem Cache.apply_apply (c : Cache) (n : Identity) (m m' : Mutation) :
    (c.apply n m).apply n m' =
      { c with shapes := c.shapes.insert n.text (m'.applyTo (m.applyTo (c.read n))) } := by
  rw [apply, read_apply, apply, Dict.insert_insert]

namespace CacheCall

/-! ## One call -/

/-- The namespace whose entry a call changes. -/
def identity : CacheCall → Identity
  | .apply n _ | .clear n => n

/-- What a call makes of the entry of its namespace. -/
def entry (before : Option Shape) : CacheCall → Option Shape
  | .apply _ m => some (m.applyTo (before.getD {}))
  | .clear _ => none

theorem get?_shapes_perform (c : Cache) (k : CacheCall) (key : String) :
    (k.perform c).2.shapes.get? key =
      if key = k.identity.text then k.entry (c.get? k.identity) else c.shapes.get? key := by
  cases k with
  | apply n m => exact Dict.get?_insert _ _ _ _
  | clear n => exact Dict.get?_erase _ _ _

theorem get?_perform (c : Cache) (k : CacheCall) (n : Identity) :
    (k.perform c).2.get? n = if k.identity = n then k.entry (c.get? n) else c.get? n := by
  rw [Cache.get?, get?_shapes_perform]
  by_cases h : k.identity = n
  · rw [if_pos h, if_pos (congrArg Identity.text h.symm), h]
  · rw [if_neg h, if_neg (fun htext => h (Identity.text_inj.mp htext).symm)]
    rfl

theorem locks_perform (c : Cache) (k : CacheCall) : (k.perform c).2.locks = c.locks := by
  cases k <;> rfl

/-! ## Two calls -/

/-- Calls on different namespaces can be made in either order, and answer the same in both. -/
theorem perform_comm {k k' : CacheCall} (h : k.identity ≠ k'.identity) (c : Cache) :
    (k'.perform (k.perform c).2).2 = (k.perform (k'.perform c).2).2 ∧
      (k'.perform (k.perform c).2).1 = (k'.perform c).1 := by
  have hentry : (k.perform c).2.get? k'.identity = c.get? k'.identity := by
    rw [get?_perform, if_neg h]
  have hentry' : (k'.perform c).2.get? k.identity = c.get? k.identity := by
    rw [get?_perform, if_neg (Ne.symm h)]
  constructor
  · refine Cache.ext_shapes (by simp only [locks_perform]) fun key => ?_
    rw [get?_shapes_perform, get?_shapes_perform, get?_shapes_perform, get?_shapes_perform, hentry,
      hentry']
    by_cases hkey : key = k'.identity.text
    · have hother : key ≠ k.identity.text := fun hsame =>
        h (Identity.text_inj.mp (hsame.symm.trans hkey))
      rw [if_pos hkey, if_neg hother, if_pos hkey]
    · rw [if_neg hkey, if_neg hkey]
  · cases k' with
    | apply n m => exact congrArg (fun entry : Option Shape => some (m.applyTo (entry.getD {}))) hentry
    | clear n => exact hentry

/-! ## Runs of calls -/

/-- Where calls lead from the empty cache, one after the other. -/
def after (calls : List CacheCall) : Cache := calls.foldl (fun c k => (k.perform c).2) {}

theorem after_append (calls more : List CacheCall) :
    after (calls ++ more) = more.foldl (fun c k => (k.perform c).2) (after calls) :=
  List.foldl_append

/-- The calls since a namespace was last cleared, the latest one first. -/
def since (n : Identity) (calls : List CacheCall) : List CacheCall :=
  calls.reverse.takeWhile (· ≠ .clear n)

/-- The parameter that a call sets a dimension of a namespace to. -/
def sets? (n : Identity) (d : Dimension) : CacheCall → Option Param
  | .apply m change => if m = n ∧ change.dimension = d then some change.value else none
  | .clear _ => none

/-- What a dimension of a namespace was last set to since the namespace was last cleared. -/
def lastSet? (n : Identity) (d : Dimension) (calls : List CacheCall) : Option Param :=
  (since n calls).findSome? (·.sets? n d)

theorem since_append_singleton (n : Identity) (calls : List CacheCall) (k : CacheCall) :
    since n (calls ++ [k]) = if k = .clear n then [] else k :: since n calls := by
  rw [since, List.reverse_append, List.reverse_singleton, List.singleton_append]
  by_cases hk : k = .clear n
  · rw [if_pos hk]
    exact List.takeWhile_cons_of_neg (by simp [hk])
  · rw [if_neg hk]
    exact List.takeWhile_cons_of_pos (by simp [hk])

theorem since_apply (n : Identity) (calls : List CacheCall) (m : Identity) (change : Mutation) :
    since n (calls ++ [.apply m change]) = .apply m change :: since n calls := by
  rw [since_append_singleton]
  exact if_neg CacheCall.noConfusion

theorem since_clear (n : Identity) (calls : List CacheCall) (m : Identity) :
    since n (calls ++ [.clear m]) = if m = n then [] else .clear m :: since n calls := by
  rw [since_append_singleton]
  exact if_congr ⟨fun h => clear.inj h, congrArg _⟩ rfl rfl

theorem get?_after_append_singleton (calls : List CacheCall) (k : CacheCall) (n : Identity) :
    (after (calls ++ [k])).get? n =
      if k.identity = n then k.entry ((after calls).get? n) else (after calls).get? n := by
  rw [after_append]
  exact get?_perform (after calls) k n

/-- There is an entry if and only if something was applied since the last clear. -/
theorem get?_after_eq_none_iff (calls : List CacheCall) (n : Identity) :
    (after calls).get? n = none ↔ ∀ m, .apply n m ∉ since n calls := by
  induction calls using List.reverseRecOn with
  | nil => exact iff_of_true rfl fun m h => by cases h
  | append_singleton calls k ih =>
      rw [get?_after_append_singleton]
      cases k with
      | apply other change =>
          rw [since_apply, identity]
          split
          · next hsame =>
              subst hsame
              exact iff_of_false (Option.some_ne_none _) fun h => h change List.mem_cons_self
          · next hother =>
              rw [ih]
              refine forall_congr' fun m => not_congr ?_
              rw [List.mem_cons, or_iff_right]
              rintro ⟨⟩
              exact hother rfl
      | clear other =>
          rw [since_clear, identity]
          split
          · exact iff_of_true rfl fun m h => by cases h
          · rw [ih]
            refine forall_congr' fun m => not_congr ?_
            rw [List.mem_cons, or_iff_right CacheCall.noConfusion]

/-- Each dimension reads as what it was last set to since the last clear. -/
theorem get_read_after (calls : List CacheCall) (n : Identity) (d : Dimension) :
    ((after calls).read n).get d = (lastSet? n d calls).getD .unset := by
  induction calls using List.reverseRecOn with
  | nil => cases d <;> rfl
  | append_singleton calls k ih =>
      rw [Cache.read, get?_after_append_singleton, lastSet?]
      cases k with
      | apply other change =>
          rw [since_apply, List.findSome?_cons, sets?, identity]
          split
          · next hsame =>
              show (change.applyTo ((after calls).read n)).get d = _
              rw [Mutation.get_applyTo]
              by_cases hd : change.dimension = d
              · rw [if_pos hd.symm, if_pos ⟨hsame, hd⟩]
                rfl
              · rw [if_neg (Ne.symm hd), if_neg (fun h => hd h.2)]
                exact ih
          · next hother =>
              rw [if_neg (fun h => hother h.1)]
              exact ih
      | clear other =>
          rw [since_clear, identity]
          split
          · cases d <;> rfl
          · exact ih

/-! ## How many entries there are -/

/-- Every entry is the entry of a namespace. -/
theorem get?_shapes_after_empty (calls : List CacheCall) : (after calls).shapes.get? "" = none := by
  induction calls using List.reverseRecOn with
  | nil => rfl
  | append_singleton calls k ih =>
      rw [after_append, List.foldl_cons, List.foldl_nil, get?_shapes_perform,
        if_neg (Ne.symm k.identity.nonempty)]
      exact ih

theorem exists_namespaces (calls : List CacheCall) :
    ∃ namespaces : List Identity, namespaces.Nodup ∧
      (∀ n, n ∈ namespaces ↔ ((after calls).get? n).isSome) ∧
      (after calls).size = namespaces.length := by
  have hkeys : ∀ key ∈ (after calls).shapes.keys, key ≠ "" := by
    rintro key hkey rfl
    rw [Dict.mem_keys_iff, get?_shapes_after_empty] at hkey
    cases hkey
  refine ⟨(after calls).shapes.keys.pmap Identity.mk hkeys, ?_, fun n => ?_, ?_⟩
  · exact (after calls).shapes.nodup_keys.pmap fun _ _ _ _ h => congrArg Identity.text h
  · rw [List.mem_pmap, Cache.get?, ← Dict.mem_keys_iff]
    constructor
    · rintro ⟨key, hkey, rfl⟩
      exact hkey
    · intro h
      exact ⟨n.text, h, rfl⟩
  · rw [List.length_pmap, Dict.keys, List.length_map]
    rfl

end CacheCall

open CacheCall in
/-- After any calls on an empty cache, a namespace has no entry exactly if nothing was applied to it since it
was last cleared; each dimension of an entry is what it was last set to since then, or unset; and reading is
looking up, with the unset shape for no entry. At every point of such a history: a call that applies answers
the entry that is there next, and one that clears the entry that was there; the size is the number of
namespaces with an entry; calls on different namespaces can change places, and so can mutations of different
dimensions of one namespace; and a mutation that is repeated changes nothing. -/
theorem entry_is_last_writes (calls : List CacheCall) :
    let c := after calls
    (∀ n, (c.get? n = none ↔ ∀ m, .apply n m ∉ since n calls) ∧
      (∀ shape, c.get? n = some shape → ∀ d, shape.get d = (lastSet? n d calls).getD .unset) ∧
      c.read n = (c.get? n).getD {}) ∧
    (∀ n m, ((CacheCall.apply n m).perform c).1 = (after (calls ++ [.apply n m])).get? n) ∧
    (∀ n, ((CacheCall.clear n).perform c).1 = c.get? n) ∧
    (∃ namespaces : List Identity, namespaces.Nodup ∧ (∀ n, n ∈ namespaces ↔ (c.get? n).isSome) ∧
      c.size = namespaces.length) ∧
    (c.isEmpty = true ↔ c.size = 0) ∧
    (∀ k k', k.identity ≠ k'.identity →
      after (calls ++ [k, k']) = after (calls ++ [k', k]) ∧
        (k'.perform (after (calls ++ [k]))).1 = (k'.perform c).1) ∧
    (∀ n m m', m.dimension ≠ m'.dimension →
      after (calls ++ [.apply n m, .apply n m']) = after (calls ++ [.apply n m', .apply n m])) ∧
    (∀ n m, after (calls ++ [.apply n m, .apply n m]) = after (calls ++ [.apply n m]) ∧
      ((CacheCall.apply n m).perform (after (calls ++ [.apply n m]))).1 =
        ((CacheCall.apply n m).perform c).1) := by
  intro c
  refine ⟨fun n => ⟨get?_after_eq_none_iff calls n, ?_, rfl⟩, ?_, fun n => rfl, exists_namespaces calls, ?_,
    ?_, ?_, ?_⟩
  · intro shape hshape d
    rw [← get_read_after, Cache.read, hshape]
    rfl
  · intro n m
    rw [get?_after_append_singleton, identity, if_pos rfl]
    rfl
  · rw [Cache.isEmpty, Cache.size, Dict.isEmpty, Dict.size, List.isEmpty_iff_length_eq_zero]
  · intro k k' h
    rw [after_append, after_append, after_append]
    exact perform_comm h c
  · intro n m m' h
    rw [after_append, after_append]
    show (c.apply n m).apply n m' = (c.apply n m').apply n m
    rw [Cache.apply_apply, Cache.apply_apply, Mutation.applyTo_comm h]
  · intro n m
    rw [after_append, after_append]
    constructor
    · show (c.apply n m).apply n m = c.apply n m
      rw [Cache.apply_apply, Mutation.applyTo_applyTo]
      rfl
    · show some (m.applyTo ((c.apply n m).read n)) = some (m.applyTo (c.read n))
      rw [Cache.read_apply, Mutation.applyTo_applyTo]

end TrafficShaping
