import TrafficShaping.Files.Path
import TrafficShaping.Proofs.Words

/-!
# The directories around a path

The path of the directory around a path is found by cutting the text of the path, not by walking. What is cut
off is the last segment that says something, and everything that says nothing before and behind it. So the
components that are left are the first ones of the path, and between them and the one that is cut off there
are at most components `.`. A walk of the whole path comes by wherever a walk of what is left comes to.

The text is the segments put together again, which is why the cut can be followed on the segments. One
thing is still said of the bytes: they begin the path's, so a path that can be handed to the system can be cut.
-/

namespace TrafficShaping

namespace Text

variable {α : Type} {p : α → Bool}

theorem not_of_mem_pieces {cs piece : List α} {c : α} (h : piece ∈ pieces p cs) (hc : c ∈ piece) :
    p c = false := by
  induction cs generalizing piece with
  | nil =>
      obtain rfl := List.mem_singleton.mp h
      cases hc
  | cons d cs ih =>
      rw [pieces_cons] at h
      split at h
      · rcases List.mem_cons.mp h with rfl | h
        · cases hc
        · exact ih h hc
      · next hd =>
          cases hpieces : pieces p cs with
          | nil => exact absurd hpieces (pieces_ne_nil p cs)
          | cons first rest =>
              rw [hpieces] at h ih
              rcases List.mem_cons.mp h with rfl | h
              · rcases List.mem_cons.mp hc with rfl | hc
                · simpa using hd
                · exact ih List.mem_cons_self hc
              · exact ih (List.mem_cons_of_mem _ h) hc

end Text

namespace Path

/-! ## Segments -/

theorem ofSegments_cons (s : Name) {segs : List Name} (h : segs ≠ []) :
    ofSegments (s :: segs) = s ++ slash :: ofSegments segs := by
  rw [ofSegments, List.intercalate_cons_of_ne_nil h, List.append_assoc]
  rfl

theorem ofSegments_append {segs more : List Name} (hsegs : segs ≠ []) (hmore : more ≠ []) :
    ofSegments (segs ++ more) = ofSegments segs ++ slash :: ofSegments more := by
  induction segs with
  | nil => exact absurd rfl hsegs
  | cons s segs ih =>
      by_cases h : segs = []
      · rw [h]
        exact (ofSegments_cons s hmore).trans (by simp [ofSegments])
      · rw [List.cons_append, ofSegments_cons s (by simp [h]), ih h, ofSegments_cons s h, List.append_assoc]
        rfl

theorem ofSegments_prefix (segs more : List Name) : ofSegments segs <+: ofSegments (segs ++ more) := by
  by_cases hsegs : segs = []
  · rw [hsegs]
    exact List.nil_prefix
  · by_cases hmore : more = []
    · simp [hmore]
    · rw [ofSegments_append hsegs hmore]
      exact List.prefix_append _ _

theorem ofSegments_growFirst (c : UInt8) {segs : List Name} (h : segs ≠ []) :
    ofSegments (Text.growFirst c segs) = c :: ofSegments segs := by
  cases segs with
  | nil => exact absurd rfl h
  | cons s segs =>
      rw [Text.growFirst]
      by_cases hsegs : segs = []
      · rw [hsegs]
        rfl
      · rw [ofSegments_cons _ hsegs, ofSegments_cons s hsegs]
        rfl

theorem ofSegments_segments (p : Path) : ofSegments (segments p) = p := by
  induction p with
  | nil => rfl
  | cons c p ih =>
      have hne : segments p ≠ [] := Text.pieces_ne_nil _ p
      rw [segments, Text.pieces_cons]
      split
      · next hc =>
          obtain rfl : c = slash := by simpa using hc
          exact (ofSegments_cons [] hne).trans (congrArg (slash :: ·) ih)
      · exact (ofSegments_growFirst c hne).trans (congrArg (c :: ·) ih)

theorem slash_not_mem_of_mem_segments {p : Path} {s : Name} (h : s ∈ segments p) : slash ∉ s := by
  intro hs
  have := Text.not_of_mem_pieces h hs
  simp at this

theorem segments_ofSegments {segs : List Name} (hne : segs ≠ []) (h : ∀ s ∈ segs, slash ∉ s) :
    segments (ofSegments segs) = segs := by
  induction segs with
  | nil => exact absurd rfl hne
  | cons s segs ih =>
      have hs : Text.pieces (· == slash) s = [s] := by
        refine Text.pieces_of_not fun c hc => ?_
        have hne : c ≠ slash := fun heq => h s List.mem_cons_self (heq ▸ hc)
        simpa using hne
      by_cases hsegs : segs = []
      · rw [hsegs]
        simpa [ofSegments, segments] using hs
      · have hslash : (slash == slash) = true := beq_self_eq_true slash
        rw [ofSegments_cons s hsegs, segments, Text.pieces_append_cons (p := (· == slash)) hslash, hs]
        exact congrArg (s :: ·) (ih hsegs fun s' hs' => h s' (List.mem_cons_of_mem _ hs'))

theorem components_ofSegments {segs : List Name} (h : ∀ s ∈ segs, slash ∉ s) :
    components (ofSegments segs) = segs.filter (!·.isEmpty) := by
  by_cases hne : segs = []
  · rw [hne]
    rfl
  · rw [components, segments_ofSegments hne h]

theorem components_slash_cons (p : Path) : components (slash :: p) = components p := by
  rw [components, segments, Text.pieces_cons, if_pos (beq_self_eq_true slash)]
  rfl

/-! ## Cutting off -/

/-- Nothing but components `.` stands in segments that say nothing. -/
theorem eq_dot_of_mem_filter {segs : List Name} (h : ∀ s ∈ segs, isIdle s) {s : Name}
    (hs : s ∈ segs.filter (!·.isEmpty)) : s = dot := by
  obtain ⟨hmem, hne⟩ := List.mem_filter.mp hs
  have hidle := h s hmem
  simp only [isIdle, Bool.or_eq_true, beq_iff_eq] at hidle
  rcases hidle with hempty | hdot
  · simp [hempty] at hne
  · exact hdot

theorem of_cutLast?_eq_some {segs kept : List Name} (h : cutLast? segs = some kept) :
    ∃ idle n idle', segs = kept ++ (idle ++ n :: idle') ∧ isIdle n = false ∧
      (∀ s ∈ idle, isIdle s) ∧ ∀ s ∈ idle', isIdle s := by
  obtain ⟨idle', hsegs, hidle'⟩ := Text.exists_dropEnd isIdle segs
  rw [cutLast?] at h
  rcases List.eq_nil_or_concat (Text.dropEnd isIdle segs) with hnil | ⟨init, n, hinit⟩
  · rw [hnil] at h
    cases h
  · obtain ⟨idle, hidle_append, hidle⟩ := Text.exists_dropEnd isIdle init
    have hlast : (Text.dropEnd isIdle segs).getLast? = some n := by
      rw [hinit]
      simp
    have hn : isIdle n = false := Text.not_of_getLast?_dropEnd hlast
    have hkept : kept = Text.dropEnd isIdle init := by
      rw [hinit] at h
      simpa using h.symm
    refine ⟨idle, n, idle', ?_, hn, hidle, hidle'⟩
    rw [hsegs, hinit, hkept]
    conv_lhs => rw [hidle_append]
    simp

theorem isIdle_of_cutLast?_eq_none {segs : List Name} (h : cutLast? segs = none) : ∀ s ∈ segs, isIdle s := by
  obtain ⟨idle, hsegs, hidle⟩ := Text.exists_dropEnd isIdle segs
  rw [cutLast?] at h
  split at h
  · next hnil =>
      rw [hnil, List.nil_append] at hsegs
      rwa [hsegs]
  · cases h

/-- What is left of segments that are cut begins them, and of the components that are cut off only one is not
`.`. -/
theorem components_of_cutLast? {segs kept : List Name} (h : cutLast? segs = some kept) :
    kept <+: segs ∧ ∃ dots n dots',
      segs.filter (!·.isEmpty) = kept.filter (!·.isEmpty) ++ (dots ++ n :: dots') ∧
        (∀ d ∈ dots, d = dot) ∧ ∀ d ∈ dots', d = dot := by
  obtain ⟨idle, n, idle', rfl, hn, hidle, hidle'⟩ := of_cutLast?_eq_some h
  have hne : n.isEmpty = false := by
    rw [isIdle, Bool.or_eq_false_iff] at hn
    exact hn.1
  refine ⟨List.prefix_append _ _, idle.filter (!·.isEmpty), n, idle'.filter (!·.isEmpty), ?_,
    fun _ => eq_dot_of_mem_filter hidle, fun _ => eq_dot_of_mem_filter hidle'⟩
  rw [List.filter_append, List.filter_append, List.filter_cons_of_pos (by rw [hne]; rfl)]

/-- Whether a path is the one of the directory around another, as far as its bytes and its components say: it
begins the path, and the components that it lacks are one that names something and components `.` around it. -/
def IsCut (p q : Path) : Prop :=
  q <+: p ∧ ∃ dots n dots', components p = components q ++ (dots ++ n :: dots') ∧
    (∀ d ∈ dots, d = dot) ∧ ∀ d ∈ dots', d = dot

theorem isCut_of_absolute {p : Path} {kept : List Name} (h : cutLast? (segments p) = some kept) :
    IsCut (slash :: p) (slash :: ofSegments kept) := by
  obtain ⟨⟨more, hmore⟩, dots, n, dots', hfilter, hdots⟩ := components_of_cutLast? h
  have hslash : ∀ s ∈ kept, slash ∉ s := fun s hs =>
    slash_not_mem_of_mem_segments (p := p) (hmore ▸ List.mem_append_left more hs)
  refine ⟨?_, dots, n, dots', ?_, hdots⟩
  · rw [List.prefix_cons_inj, ← ofSegments_segments p, ← hmore]
    exact ofSegments_prefix kept more
  · rw [components_slash_cons, components_slash_cons, components_ofSegments hslash]
    exact hfilter

theorem isCut_of_relative {p : Path} {first : Name} {rest kept : List Name}
    (hp : segments p = first :: rest) (h : cutLast? rest = some kept) :
    IsCut p (ofSegments (first :: kept)) := by
  obtain ⟨⟨more, rfl⟩, dots, n, dots', hfilter, hdots⟩ := components_of_cutLast? h
  have hslash : ∀ s ∈ first :: kept, slash ∉ s := by
    intro s hs
    refine slash_not_mem_of_mem_segments (p := p) ?_
    rw [hp]
    exact List.mem_append_left more hs
  refine ⟨?_, dots, n, dots', ?_, hdots⟩
  · rw [← ofSegments_segments p, hp]
    exact ofSegments_prefix (first :: kept) more
  · rw [components_ofSegments hslash, components, hp, ← List.singleton_append, List.filter_append, hfilter,
      ← List.append_assoc, ← List.filter_append]
    rfl

theorem isCut_of_parent? {p q : Path} (h : parent? p = some q) : IsCut p q := by
  cases hsegs : segments p with
  | nil => exact absurd hsegs (Text.pieces_ne_nil _ p)
  | cons first rest =>
      rw [parent?, hsegs] at h
      dsimp only at h
      split at h
      · next habsolute =>
          obtain ⟨p, rfl⟩ : ∃ p', p = slash :: p' :=
            List.head?_eq_some_iff.mp (by simpa [isAbsolute] using habsolute)
          obtain ⟨kept, hcut, rfl⟩ := Option.map_eq_some_iff.mp h
          have hrest : rest = segments p := by
            rw [segments, Text.pieces_cons, if_pos (beq_self_eq_true slash)] at hsegs
            exact (List.cons.inj hsegs).2.symm
          exact isCut_of_absolute (hrest ▸ hcut)
      · cases hcut : cutLast? rest with
        | some kept =>
            rw [hcut] at h
            obtain rfl := Option.some.inj h
            exact isCut_of_relative hsegs hcut
        | none =>
            rw [hcut] at h
            dsimp only at h
            split at h
            · cases h
            · next hfirst =>
                obtain rfl := Option.some.inj h
                refine ⟨List.nil_prefix, [], first, rest.filter (!·.isEmpty), ?_, nofun,
                  fun _ => eq_dot_of_mem_filter (isIdle_of_cutLast?_eq_none hcut)⟩
                rw [components, hsegs, List.filter_cons_of_pos (by simpa using hfirst)]
                rfl

theorem IsCut.components_eq {p q : Path} (h : IsCut p q) :
    ∃ n after, components p = components q ++ n :: after := by
  obtain ⟨-, dots, n, dots', hcomponents, -⟩ := h
  cases dots with
  | nil => exact ⟨n, dots', hcomponents⟩
  | cons dot dots => exact ⟨dot, dots ++ n :: dots', hcomponents⟩

theorem ancestors_go_eq_cons (fuel : Nat) (p : Path) : ∃ around, ancestors.go fuel p = p :: around := by
  cases fuel with
  | zero => exact ⟨[], rfl⟩
  | succ fuel =>
      rw [ancestors.go]
      split <;> exact ⟨_, rfl⟩

/-- The components of the directories around a path begin those of the path. -/
theorem components_of_mem_ancestors {p q : Path} (h : q ∈ p.ancestors.tail) :
    ∃ n after, components p = components q ++ n :: after := by
  rw [ancestors] at h
  generalize p.length = fuel at h
  induction fuel generalizing p with
  | zero => cases h
  | succ fuel ih =>
      rw [ancestors.go] at h
      split at h
      · cases h
      · next r hr =>
          obtain ⟨n, after, hcut⟩ := (isCut_of_parent? hr).components_eq
          obtain ⟨around, hgo⟩ := ancestors_go_eq_cons fuel r
          rw [List.tail_cons, hgo] at h
          rcases List.mem_cons.mp h with rfl | h
          · exact ⟨n, after, hcut⟩
          · obtain ⟨n', after', hq⟩ := ih (by rw [hgo]; exact h)
            refine ⟨n', after' ++ n :: after, ?_⟩
            rw [hcut, hq, List.append_assoc]
            rfl

end Path

end TrafficShaping
