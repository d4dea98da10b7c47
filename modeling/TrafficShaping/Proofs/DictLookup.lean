import TrafficShaping.Dict
import Mathlib.Data.List.Nodup

/-!
# What a dictionary holds

`Dict.lean` gives one look-up equation for each operation on a single key. The facts here are about
whole dictionaries, and they need the order of the keys: because no key stands twice, an entry is in the
list exactly when a look-up finds it, so that filtering and listing can be read through `get?` as well.

A dictionary that is filled from a list keeps the last entry of each key. Where the keys of the list are
distinct that is no choice at all, and the dictionary holds exactly the list.
-/

namespace TrafficShaping.Dict

variable {β : Type}

/-! ## Entries and look-ups -/

theorem mem_of_lookup {key : String} {value : β} {l : List (String × β)}
    (h : l.lookup key = some value) : (key, value) ∈ l := by
  induction l with
  | nil => cases h
  | cons head rest ih =>
      rw [lookup_cons] at h
      split at h
      · next hk =>
          obtain rfl := Option.some.inj h
          rw [hk]
          exact List.mem_cons_self
      · exact List.mem_cons_of_mem _ (ih h)

theorem lookup_of_mem {key : String} {value : β} {l : List (String × β)}
    (hkeys : (l.map (·.1)).Nodup) (h : (key, value) ∈ l) : l.lookup key = some value := by
  induction l with
  | nil => cases h
  | cons head rest ih =>
      obtain ⟨hnot, hrest⟩ := List.nodup_cons.mp hkeys
      rw [lookup_cons]
      rcases List.mem_cons.mp h with rfl | hmem
      · rw [if_pos rfl]
      · have hne : key ≠ head.1 := by
          rintro rfl
          exact hnot (List.mem_map.mpr ⟨_, hmem, rfl⟩)
        rw [if_neg hne]
        exact ih hrest hmem

theorem nodup_keys (d : Dict β) : (d.entries.map (·.1)).Nodup := by
  rw [List.Nodup, List.pairwise_map]
  refine d.increasing.imp ?_
  intro a b hlt heq
  exact String.lt_irrefl _ (heq ▸ hlt)

theorem mem_entries_iff {d : Dict β} {key : String} {value : β} :
    (key, value) ∈ d.entries ↔ d.get? key = some value :=
  ⟨lookup_of_mem d.nodup_keys, mem_of_lookup⟩

theorem mem_values_iff {d : Dict β} {value : β} :
    value ∈ d.values ↔ ∃ key, d.get? key = some value := by
  constructor
  · intro h
    obtain ⟨⟨key, _⟩, hmem, rfl⟩ := List.mem_map.mp h
    exact ⟨key, mem_entries_iff.mp hmem⟩
  · rintro ⟨key, h⟩
    exact List.mem_map.mpr ⟨(key, value), mem_entries_iff.mpr h, rfl⟩

theorem mem_keys_iff {d : Dict β} {key : String} : key ∈ d.keys ↔ (d.get? key).isSome := by
  rw [Option.isSome_iff_exists]
  constructor
  · intro h
    obtain ⟨⟨_, value⟩, hmem, rfl⟩ := List.mem_map.mp h
    exact ⟨value, mem_entries_iff.mp hmem⟩
  · rintro ⟨value, h⟩
    exact List.mem_map.mpr ⟨(key, value), mem_entries_iff.mpr h, rfl⟩

theorem insert_insert (d : Dict β) (key : String) (value value' : β) :
    (d.insert key value).insert key value' = d.insert key value' := by
  refine ext_get? fun other => ?_
  rw [get?_insert, get?_insert, get?_insert]
  split <;> rfl

theorem get?_filter (d : Dict β) (keep : String → β → Bool) (key : String) :
    (d.filter keep).get? key = (d.get? key).filter (keep key) := by
  refine Option.ext fun value => ?_
  rw [← mem_entries_iff, Option.filter_eq_some_iff, ← mem_entries_iff]
  exact List.mem_filter

/-! ## Filling from a list -/

theorem get?_foldl_insert (l : List (String × β)) (d : Dict β) (key : String) :
    (l.foldl (fun d e => d.insert e.1 e.2) d).get? key = (l.reverse.lookup key).or (d.get? key) := by
  induction l generalizing d with
  | nil => rfl
  | cons head rest ih =>
      rw [List.foldl_cons, ih, List.reverse_cons, List.lookup_append, get?_insert, lookup_cons]
      cases rest.reverse.lookup key with
      | some value => rfl
      | none =>
          simp only [Option.none_or]
          split <;> rfl

theorem get?_ofList (l : List (String × β)) (key : String) :
    (ofList l).get? key = l.reverse.lookup key := by
  rw [ofList, get?_foldl_insert, get?_empty, Option.or_none]

theorem lookup_filter_key (l : List (String × β)) (key : String) :
    (l.filter (·.1 = key)).lookup key = l.lookup key := by
  induction l with
  | nil => rfl
  | cons head rest ih =>
      rw [lookup_cons, List.filter_cons]
      split
      · next h =>
          have hkey : key = head.1 := (of_decide_eq_true h).symm
          rw [lookup_cons, if_pos hkey, if_pos hkey]
      · next h => rw [ih, if_neg fun hkey => h (decide_eq_true hkey.symm)]

/-- Only the entries of a key can decide what is found under it. -/
theorem get?_ofList_filter_key (l : List (String × β)) (key : String) :
    (ofList (l.filter (·.1 = key))).get? key = (ofList l).get? key := by
  rw [get?_ofList, get?_ofList, ← List.filter_reverse, lookup_filter_key]

theorem mem_of_get?_ofList {l : List (String × β)} {key : String} {value : β}
    (h : (ofList l).get? key = some value) : (key, value) ∈ l := by
  rw [get?_ofList] at h
  exact List.mem_reverse.mp (mem_of_lookup h)

theorem get?_ofList_eq_some_iff {l : List (String × β)} (hkeys : (l.map (·.1)).Nodup)
    {key : String} {value : β} : (ofList l).get? key = some value ↔ (key, value) ∈ l := by
  have hreverse : (l.reverse.map (·.1)).Nodup := by
    rw [List.map_reverse]
    exact List.nodup_reverse.mpr hkeys
  constructor
  · exact mem_of_get?_ofList
  · intro h
    rw [get?_ofList]
    exact lookup_of_mem hreverse (List.mem_reverse.mpr h)

/-- Filling from a list with distinct keys only puts the list in order. -/
theorem entries_ofList_perm {l : List (String × β)} (hkeys : (l.map (·.1)).Nodup) :
    (ofList l).entries.Perm l := by
  refine (List.perm_ext_iff_of_nodup (ofList l).nodup_keys.of_map hkeys.of_map).mpr ?_
  rintro ⟨key, value⟩
  rw [mem_entries_iff, get?_ofList_eq_some_iff hkeys]

theorem size_ofList {l : List (String × β)} (hkeys : (l.map (·.1)).Nodup) :
    (ofList l).size = l.length :=
  (entries_ofList_perm hkeys).length_eq

end TrafficShaping.Dict
