import TrafficShaping.Container
import TrafficShaping.Proofs.Words
import Mathlib.Data.List.TakeWhile

/-!
# Pods in container names

The name of a container is cut at its underscores and the third field is taken for the pod. The names that have
a pod can be told without cutting, because a cut can be followed from the front: the first field is what
stands before the first underscore, and the other fields are those of what stands behind it. So the fields in
front are peeled off one at a time, and of what is left only the number matters, which is one more than that
of the underscores. Slashes in front say nothing, and there is only one way to tell them apart from the name,
since no name that has a pod starts with one.
-/

namespace TrafficShaping

namespace Text

variable {α : Type} {p : α → Bool}

/-! ## Peeling off pieces -/

theorem length_growFirst (c : α) {ps : List (List α)} (h : ps ≠ []) :
    (growFirst c ps).length = ps.length := by
  cases ps with
  | nil => exact absurd rfl h
  | cons q ps => rfl

/-- There is one piece more than there are separators. -/
theorem length_pieces (p : α → Bool) (cs : List α) : (pieces p cs).length = cs.countP p + 1 := by
  induction cs with
  | nil => rfl
  | cons c cs ih =>
      rw [pieces_cons, List.countP_cons]
      split
      · rw [List.length_cons, ih]
      · rw [length_growFirst c (pieces_ne_nil p cs), ih, Nat.add_zero]

/-- The first piece, where there are more, is what stands before the first separator. -/
theorem pieces_eq_cons_iff {cs first : List α} {others : List (List α)} (h : others ≠ []) :
    pieces p cs = first :: others ↔
      ∃ c rest, p c ∧ (∀ d ∈ first, p d = false) ∧ cs = first ++ c :: rest ∧ pieces p rest = others := by
  constructor
  · intro hpieces
    induction cs generalizing first with
    | nil => exact absurd (List.cons.inj hpieces).2.symm h
    | cons c cs ih =>
        rw [pieces_cons] at hpieces
        split at hpieces
        · next hc =>
            obtain ⟨rfl, rfl⟩ := List.cons.inj hpieces
            exact ⟨c, cs, hc, nofun, rfl, rfl⟩
        · next hc =>
            cases hrest : pieces p cs with
            | nil => exact absurd hrest (pieces_ne_nil p cs)
            | cons front more =>
                rw [hrest] at hpieces
                obtain ⟨rfl, rfl⟩ := List.cons.inj hpieces
                obtain ⟨d, rest, hd, hfront, rfl, hmore⟩ := ih hrest
                exact ⟨d, rest, hd, List.forall_mem_cons.mpr ⟨by simpa using hc, hfront⟩, rfl, hmore⟩
  · rintro ⟨c, rest, hc, hfirst, rfl, rfl⟩
    rw [pieces_append_cons hc, pieces_of_not hfirst]
    rfl

theorem length_splitAt (separator : Char) (s : String) :
    (splitAt separator s).length = s.toList.count separator + 1 := by
  rw [splitAt, List.length_map, length_pieces, List.count]

theorem splitAt_eq_cons_iff {separator : Char} {s first : String} {others : List String}
    (h : others ≠ []) :
    splitAt separator s = first :: others ↔ ∃ rest, separator ∉ first.toList ∧
      s = first ++ String.singleton separator ++ rest ∧ splitAt separator rest = others := by
  constructor
  · intro hsplit
    obtain ⟨chars, more, hpieces, rfl, rfl⟩ := List.map_eq_cons_iff.mp hsplit
    have hmore : more ≠ [] := fun hnil => h (by rw [hnil, List.map_nil])
    obtain ⟨c, rest, hc, hchars, hs, hrest⟩ := (pieces_eq_cons_iff hmore).mp hpieces
    obtain rfl : c = separator := eq_of_beq hc
    refine ⟨String.ofList rest, ?_, ?_, ?_⟩
    · rw [String.toList_ofList]
      intro hmem
      have := hchars c hmem
      rw [hc] at this
      cases this
    · rw [← String.toList_inj, hs]
      simp
    · rw [splitAt, String.toList_ofList, hrest]
  · rintro ⟨rest, hfirst, rfl, rfl⟩
    have hpieces : pieces (· == separator) (first ++ String.singleton separator ++ rest).toList =
        first.toList :: pieces (· == separator) rest.toList := by
      refine (pieces_eq_cons_iff (pieces_ne_nil _ _)).mpr ⟨separator, rest.toList, by simp, ?_, by simp, rfl⟩
      intro c hc
      have hne : c ≠ separator := fun heq => hfirst (heq ▸ hc)
      simpa using hne
    rw [splitAt, hpieces, List.map_cons, String.ofList_toList, splitAt]

/-- A text is the copies of a character in front and what is left without them. -/
theorem trimStartOf_eq_iff {c : Char} {s rest : String} (h : rest.toList.head? ≠ some c) :
    trimStartOf c s = rest ↔ ∃ front : String, (∀ d ∈ front.toList, d = c) ∧ s = front ++ rest := by
  constructor
  · rintro rfl
    refine ⟨String.ofList (s.toList.takeWhile (· == c)), ?_, ?_⟩
    · intro d hd
      rw [String.toList_ofList] at hd
      exact eq_of_beq (List.all_eq_true.mp List.all_takeWhile d hd)
    · rw [trimStartOf, ← String.toList_inj, String.toList_append, String.toList_ofList,
        String.toList_ofList, List.takeWhile_append_dropWhile]
  · rintro ⟨front, hfront, rfl⟩
    have hrest : rest.toList.dropWhile (· == c) = rest.toList :=
      dropWhile_eq_self fun d hd => by
        have hne : d ≠ c := fun heq => h (heq ▸ hd)
        simpa using hne
    rw [trimStartOf, String.toList_append, List.dropWhile_append_of_pos, hrest, String.ofList_toList]
    intro d hd
    rw [hfront d hd]
    exact beq_self_eq_true c

end Text

/-! ## Names with a pod -/

theorem exists_of_three_le_length {α : Type} :
    ∀ {l : List α}, 3 ≤ l.length → ∃ a b c more, l = a :: b :: c :: more
  | a :: b :: c :: more, _ => ⟨a, b, c, more, rfl⟩

theorem podOf?_eq_some_iff_fields {name pod : String} :
    podOf? name = some pod ↔ ∃ container others,
      Text.splitAt '_' (Text.trimStartOf '/' name) = "k8s" :: container :: pod :: others ∧
        3 ≤ others.length ∧ pod ≠ "" := by
  rw [podOf?]
  constructor
  · intro h
    split at h
    · next container field a b c others hfields =>
        split at h
        · cases h
        · next hpod =>
            obtain rfl := Option.some.inj h
            exact ⟨container, a :: b :: c :: others, hfields, by simp, hpod⟩
    · cases h
  · rintro ⟨container, others, hfields, hlength, hpod⟩
    obtain ⟨a, b, c, more, rfl⟩ := exists_of_three_le_length hlength
    rw [hfields]
    exact if_neg hpod

theorem splitAt_pod_iff {s container pod : String} {others : List String} (h : others ≠ []) :
    Text.splitAt '_' s = "k8s" :: container :: pod :: others ↔
      ∃ rest, '_' ∉ container.toList ∧ '_' ∉ pod.toList ∧
        s = "k8s_" ++ container ++ "_" ++ pod ++ "_" ++ rest ∧ Text.splitAt '_' rest = others := by
  constructor
  · intro hsplit
    obtain ⟨afterKind, -, hs, hsplit⟩ := (Text.splitAt_eq_cons_iff (List.cons_ne_nil _ _)).mp hsplit
    obtain ⟨afterContainer, hcontainer, hkind, hsplit⟩ :=
      (Text.splitAt_eq_cons_iff (List.cons_ne_nil _ _)).mp hsplit
    obtain ⟨rest, hpod, hrest, hsplit⟩ := (Text.splitAt_eq_cons_iff h).mp hsplit
    refine ⟨rest, hcontainer, hpod, ?_, hsplit⟩
    rw [hs, hkind, hrest]
    simp only [String.append_assoc]
    rfl
  · rintro ⟨rest, hcontainer, hpod, hs, hsplit⟩
    refine (Text.splitAt_eq_cons_iff (List.cons_ne_nil _ _)).mpr
      ⟨container ++ "_" ++ (pod ++ "_" ++ rest), by decide, ?_, ?_⟩
    · rw [hs]
      simp only [String.append_assoc]
      rfl
    · refine (Text.splitAt_eq_cons_iff (List.cons_ne_nil _ _)).mpr ⟨pod ++ "_" ++ rest, hcontainer, rfl, ?_⟩
      exact (Text.splitAt_eq_cons_iff h).mpr ⟨rest, hpod, rfl, hsplit⟩

theorem podOf?_eq_some_iff {name pod : String} :
    podOf? name = some pod ↔ ∃ slashes container rest : String, (∀ c ∈ slashes.toList, c = '/') ∧
      '_' ∉ container.toList ∧ pod ≠ "" ∧ '_' ∉ pod.toList ∧ 2 ≤ rest.toList.count '_' ∧
      name = slashes ++ ("k8s_" ++ container ++ "_" ++ pod ++ "_" ++ rest) := by
  have htrim : ∀ container rest : String,
      Text.trimStartOf '/' name = "k8s_" ++ container ++ "_" ++ pod ++ "_" ++ rest ↔
        ∃ slashes : String, (∀ c ∈ slashes.toList, c = '/') ∧
          name = slashes ++ ("k8s_" ++ container ++ "_" ++ pod ++ "_" ++ rest) :=
    fun container rest => Text.trimStartOf_eq_iff (by simp)
  rw [podOf?_eq_some_iff_fields]
  constructor
  · rintro ⟨container, others, hfields, hlength, hpod⟩
    have hne : others ≠ [] := List.ne_nil_of_length_pos (by omega)
    obtain ⟨rest, hcontainer, hname, hbody, rfl⟩ := (splitAt_pod_iff hne).mp hfields
    obtain ⟨slashes, hslashes, heq⟩ := (htrim container rest).mp hbody
    rw [Text.length_splitAt] at hlength
    exact ⟨slashes, container, rest, hslashes, hcontainer, hpod, hname, by omega, heq⟩
  · rintro ⟨slashes, container, rest, hslashes, hcontainer, hpod, hname, hcount, heq⟩
    have hbody := (htrim container rest).mpr ⟨slashes, hslashes, heq⟩
    have hlength := Text.length_splitAt '_' rest
    have hne : Text.splitAt '_' rest ≠ [] := List.ne_nil_of_length_pos (by omega)
    exact ⟨container, _, (splitAt_pod_iff hne).mpr ⟨rest, hcontainer, hname, hbody, rfl⟩, by omega, hpod⟩

theorem count_of_podOf? {name pod : String} (h : podOf? name = some pod) : 5 ≤ name.toList.count '_' := by
  obtain ⟨slashes, container, rest, -, -, -, -, hrest, rfl⟩ := podOf?_eq_some_iff.mp h
  have hkind : "k8s_".toList.count '_' = 1 := rfl
  have hseparator : "_".toList.count '_' = 1 := rfl
  simp only [String.toList_append, List.count_append, hkind, hseparator]
  omega

/-- A name has a pod exactly if it is, behind slashes, `k8s_`, a container, the pod and then at least three
fields more. So a name of all its fields has the pod that it was made with, and a name of fewer has none. -/
theorem pod_of_name (name pod : String) :
    (podOf? name = some pod ↔ ∃ slashes container rest : String, (∀ c ∈ slashes.toList, c = '/') ∧
        '_' ∉ container.toList ∧ pod ≠ "" ∧ '_' ∉ pod.toList ∧ 2 ≤ rest.toList.count '_' ∧
        name = slashes ++ ("k8s_" ++ container ++ "_" ++ pod ++ "_" ++ rest)) ∧
      (∀ container space uid attempt : String, pod ≠ "" →
        (∀ field ∈ [container, pod, space, uid, attempt], '_' ∉ field.toList) →
        podOf? ("/k8s_" ++ container ++ "_" ++ pod ++ "_" ++ space ++ "_" ++ uid ++ "_" ++ attempt) =
          some pod) ∧
      (name.toList.count '_' < 5 → podOf? name = none) := by
  refine ⟨podOf?_eq_some_iff, fun container space uid attempt hpod hfields => ?_, fun hfew => ?_⟩
  · simp only [List.forall_mem_cons] at hfields
    obtain ⟨hcontainer, hname, -⟩ := hfields
    refine podOf?_eq_some_iff.mpr
      ⟨"/", container, space ++ "_" ++ uid ++ "_" ++ attempt, by simp, hcontainer, hpod, hname, ?_, ?_⟩
    · have hseparator : "_".toList.count '_' = 1 := rfl
      simp only [String.toList_append, List.count_append, hseparator]
      omega
    · simp only [← String.append_assoc]
      rfl
  · cases h : podOf? name with
    | none => rfl
    | some found =>
        have := count_of_podOf? h
        omega

end TrafficShaping
