/-!
# Dictionaries

A dictionary maps texts to values and keeps its entries in strictly increasing order of key. The order is
the one of the keys' UTF-8 bytes, which is the order of their code points, so it is the order `<` on
`String`. Because the order is part of the type, two dictionaries with the same lookups are the same
dictionary (`Dict.ext_get?`): nothing can depend on how one was filled.
-/

namespace TrafficShaping

/-- The entries of a dictionary: no key twice, smaller keys first. -/
def Increasing {β : Type} (entries : List (String × β)) : Prop :=
  entries.Pairwise fun a b => a.1 < b.1

structure Dict (β : Type) where
  entries : List (String × β)
  increasing : Increasing entries

namespace Dict

variable {β γ : Type}

/-- Puts an entry at its place, over one of the same key. -/
def insertEntry (key : String) (value : β) : List (String × β) → List (String × β)
  | [] => [(key, value)]
  | (k, v) :: rest =>
    if key < k then (key, value) :: (k, v) :: rest
    else if key = k then (key, value) :: rest
    else (k, v) :: insertEntry key value rest

theorem mem_insertEntry {key : String} {value : β} {e : String × β} {l : List (String × β)}
    (h : e ∈ insertEntry key value l) : e = (key, value) ∨ e ∈ l := by
  induction l with
  | nil => simpa [insertEntry] using h
  | cons head rest ih =>
    simp only [insertEntry] at h
    split at h
    · simpa using h
    · split at h
      · rcases List.mem_cons.mp h with h | h
        · exact .inl h
        · exact .inr (List.mem_cons_of_mem _ h)
      · rcases List.mem_cons.mp h with h | h
        · exact .inr (h ▸ List.mem_cons_self)
        · exact (ih h).imp id (List.mem_cons_of_mem _)

theorem lt_of_not_lt_of_ne {a b : String} (h : ¬a < b) (hne : a ≠ b) : b < a := by
  rcases Std.le_total (a := a) (b := b) with hle | hle
  · exact absurd (Std.lt_of_le_of_ne hle hne) h
  · exact Std.lt_of_le_of_ne hle (Ne.symm hne)

theorem increasing_insertEntry {key : String} {value : β} {l : List (String × β)}
    (h : Increasing l) : Increasing (insertEntry key value l) := by
  induction l with
  | nil => simp [insertEntry, Increasing]
  | cons head rest ih =>
    have hrest : ∀ e ∈ rest, head.1 < e.1 := fun _ he => List.rel_of_pairwise_cons h he
    simp only [insertEntry]
    split
    · next hlt =>
      refine List.Pairwise.cons (fun e he => ?_) h
      rcases List.mem_cons.mp he with rfl | he
      · exact hlt
      · exact String.lt_trans hlt (hrest _ he)
    · next hlt =>
      split
      · next heq =>
        exact List.Pairwise.cons (fun e he => by simpa [heq] using hrest e he) h.of_cons
      · next hne =>
        refine List.Pairwise.cons (fun e he => ?_) (ih h.of_cons)
        rcases mem_insertEntry he with rfl | he
        · exact lt_of_not_lt_of_ne hlt hne
        · exact hrest _ he

def empty : Dict β := ⟨[], List.Pairwise.nil⟩

instance : EmptyCollection (Dict β) := ⟨empty⟩
instance : Inhabited (Dict β) := ⟨empty⟩

/-- Sets the value of a key. -/
def insert (d : Dict β) (key : String) (value : β) : Dict β :=
  ⟨insertEntry key value d.entries, increasing_insertEntry d.increasing⟩

/-- Keeps the entries that satisfy `keep`. -/
def filter (d : Dict β) (keep : String → β → Bool) : Dict β :=
  ⟨d.entries.filter fun e => keep e.1 e.2, d.increasing.filter _⟩

def erase (d : Dict β) (key : String) : Dict β := d.filter fun k _ => k ≠ key

def get? (d : Dict β) (key : String) : Option β := d.entries.lookup key

def getD (d : Dict β) (key : String) (fallback : β) : β := (d.get? key).getD fallback

def contains (d : Dict β) (key : String) : Bool := (d.get? key).isSome

/-- How many keys have a value. -/
def size (d : Dict β) : Nat := d.entries.length

def isEmpty (d : Dict β) : Bool := d.entries.isEmpty

def keys (d : Dict β) : List String := d.entries.map (·.1)

def values (d : Dict β) : List β := d.entries.map (·.2)

/-- The dictionary of a list of entries; of two with one key the later counts. -/
def ofList (entries : List (String × β)) : Dict β :=
  entries.foldl (fun d e => d.insert e.1 e.2) empty

/-- Changes every value in place. -/
def map (f : β → γ) (d : Dict β) : Dict γ :=
  ⟨d.entries.map fun e => (e.1, f e.2), by
    have h := d.increasing
    simpa [Increasing, List.pairwise_map] using h⟩

instance [DecidableEq β] : DecidableEq (Dict β) := fun a b =>
  if h : a.entries = b.entries then isTrue (by cases a; cases b; simp_all)
  else isFalse fun e => h (e ▸ rfl)

/-! ## Lookups

One equation per operation, through `get?`. They hold of any list of entries, sorted or not, except for
extensionality, which is what the order is for. -/

theorem lookup_cons (key : String) (head : String × β) (rest : List (String × β)) :
    (head :: rest).lookup key = if key = head.1 then some head.2 else rest.lookup key := by
  rw [List.lookup_cons]
  split
  · next h => rw [if_pos (by simpa using h)]
  · next h => rw [if_neg (by simpa using h)]

theorem lookup_insertEntry (key other : String) (value : β) (l : List (String × β)) :
    (insertEntry key value l).lookup other =
      if other = key then some value else l.lookup other := by
  induction l with
  | nil => rw [insertEntry, lookup_cons]
  | cons head rest ih =>
    rw [insertEntry]
    split
    · rw [lookup_cons]
    · split
      · next heq => rw [lookup_cons, lookup_cons, ← heq]; split <;> simp_all
      · next hne =>
        rw [lookup_cons, lookup_cons, ih]
        split
        · next ho => rw [if_neg fun hk : other = key => hne (hk ▸ ho)]
        · rfl

@[simp] theorem get?_empty (key : String) : (empty : Dict β).get? key = none := rfl

theorem get?_insert (d : Dict β) (key other : String) (value : β) :
    (d.insert key value).get? other = if other = key then some value else d.get? other :=
  lookup_insertEntry key other value d.entries

@[simp] theorem get?_insert_self (d : Dict β) (key : String) (value : β) :
    (d.insert key value).get? key = some value := by simp [get?_insert]

theorem lookup_filter_ne (key other : String) (l : List (String × β)) :
    (l.filter fun e => decide (e.1 ≠ key)).lookup other =
      if other = key then none else l.lookup other := by
  induction l with
  | nil => simp
  | cons head rest ih =>
    by_cases hk : head.1 = key
    · rw [List.filter_cons_of_neg (by simp [hk]), ih, lookup_cons]
      split <;> simp_all
    · rw [List.filter_cons_of_pos (by simp [hk]), lookup_cons, lookup_cons, ih]
      split <;> simp_all

theorem get?_erase (d : Dict β) (key other : String) :
    (d.erase key).get? other = if other = key then none else d.get? other :=
  lookup_filter_ne key other d.entries

theorem get?_map (f : β → γ) (d : Dict β) (key : String) :
    (d.map f).get? key = (d.get? key).map f := by
  obtain ⟨l, h⟩ := d
  simp only [get?, map]
  clear h
  induction l with
  | nil => rfl
  | cons head rest ih =>
    rw [List.map_cons, lookup_cons, lookup_cons, ih]
    split <;> rfl

theorem lookup_eq_none_of_lt {key : String} {l : List (String × β)} (h : ∀ e ∈ l, key < e.1) :
    l.lookup key = none := by
  induction l with
  | nil => rfl
  | cons head rest ih =>
    rw [lookup_cons, if_neg, ih fun e he => h e (List.mem_cons_of_mem _ he)]
    intro heq
    exact String.lt_irrefl _ (heq ▸ h head List.mem_cons_self)

theorem eq_of_lookup_eq {l₁ l₂ : List (String × β)} (h₁ : Increasing l₁) (h₂ : Increasing l₂)
    (h : ∀ key, l₁.lookup key = l₂.lookup key) : l₁ = l₂ := by
  induction l₁ generalizing l₂ with
  | nil =>
    cases l₂ with
    | nil => rfl
    | cons b bs => have := h b.1; simp [lookup_cons] at this
  | cons a as ih =>
    cases l₂ with
    | nil => have := h a.1; simp [lookup_cons] at this
    | cons b bs =>
      have ha : ∀ e ∈ as, a.1 < e.1 := fun _ he => List.rel_of_pairwise_cons h₁ he
      have hb : ∀ e ∈ bs, b.1 < e.1 := fun _ he => List.rel_of_pairwise_cons h₂ he
      have hkey : a.1 = b.1 := by
        rcases Std.le_total (a := a.1) (b := b.1) with hle | hle
        · by_cases hne : a.1 = b.1
          · exact hne
          · have hlt := Std.lt_of_le_of_ne hle hne
            have hk := h a.1
            rw [lookup_cons, if_pos rfl, lookup_cons, if_neg hne, lookup_eq_none_of_lt] at hk
            · exact absurd hk (by simp)
            · exact fun e he => String.lt_trans hlt (hb e he)
        · by_cases hne : b.1 = a.1
          · exact hne.symm
          · have hlt := Std.lt_of_le_of_ne hle hne
            have hk := h b.1
            rw [lookup_cons, lookup_cons, if_pos rfl, if_neg hne, lookup_eq_none_of_lt] at hk
            · exact absurd hk (by simp)
            · exact fun e he => String.lt_trans hlt (ha e he)
      have hvalue : a.2 = b.2 := by
        have hk := h a.1
        rw [lookup_cons, if_pos rfl, lookup_cons, if_pos hkey] at hk
        exact Option.some.inj hk
      have htail : as = bs := by
        refine ih h₁.of_cons h₂.of_cons fun key => ?_
        have hk := h key
        rw [lookup_cons, lookup_cons, ← hkey] at hk
        by_cases hka : key = a.1
        · rw [lookup_eq_none_of_lt, lookup_eq_none_of_lt]
          · exact fun e he => hka ▸ hkey ▸ hb e he
          · exact fun e he => hka ▸ ha e he
        · simpa [hka] using hk
      rw [htail, Prod.ext hkey hvalue]

/-- Dictionaries with the same lookups are the same dictionary. -/
theorem ext_get? {a b : Dict β} (h : ∀ key, a.get? key = b.get? key) : a = b := by
  have := eq_of_lookup_eq a.increasing b.increasing h
  cases a
  cases b
  simp_all

end Dict

end TrafficShaping
