import TrafficShaping.Files.Calls
import Mathlib.Data.List.Infix

/-!
# What a tree holds and where a path leads

Trees change one entry at a time, so for each of the two changes there is an equation for every look-up. A
walk is harder: it goes through links and back to where it came from, and its outcome depends on every
directory that it goes through, wherever these are. Two things can be said of every walk. It comes only to
locations all of whose directories are there, since each was a directory when the walk went into it and the
tree does not change meanwhile. And it comes to the same location in a tree that holds more.

A walk that meets no link and does not go back goes through the directories of the location that it comes to
and no others. So it stays as it is for as long as these stay, whatever becomes of the rest of the tree.
-/

namespace TrafficShaping.Tree

/-! ## Entries -/

theorem lookup_filter_ne (l m : Location) (entries : List (Location × Entry)) :
    (entries.filter (·.1 != l)).lookup m = if m = l then none else entries.lookup m := by
  induction entries with
  | nil => simp
  | cons head rest ih =>
      by_cases hl : head.1 = l
      · rw [List.filter_cons_of_neg (by simp [hl]), ih, List.lookup_cons]
        by_cases hm : m = l
        · rw [if_pos hm, if_pos hm]
        · have hne : (m == head.1) = false := by simpa [hl] using hm
          rw [if_neg hm, if_neg hm, hne]
      · rw [List.filter_cons_of_pos (by simp [hl]), List.lookup_cons, List.lookup_cons, ih]
        by_cases hm : m = head.1
        · have hml : m ≠ l := by rwa [hm]
          rw [beq_iff_eq.mpr hm, if_neg hml, if_neg hml]
        · have hne : (m == head.1) = false := by simpa using hm
          rw [hne]

theorem get?_of_ne_nil (t : Tree) {l : Location} (h : l ≠ []) : t.get? l = t.entries.lookup l := by
  cases l with
  | nil => exact absurd rfl h
  | cons n l => rfl

theorem get?_erase_of_ne (t : Tree) {l m : Location} (h : m ≠ l) : (t.erase l).get? m = t.get? m := by
  cases m with
  | nil => rfl
  | cons n m =>
      rw [get?_of_ne_nil _ (List.cons_ne_nil n m), get?_of_ne_nil _ (List.cons_ne_nil n m), erase,
        lookup_filter_ne, if_neg h]

theorem get?_erase_self (t : Tree) {l : Location} (h : l ≠ []) : (t.erase l).get? l = none := by
  rw [get?_of_ne_nil _ h, erase, lookup_filter_ne, if_pos rfl]

theorem get?_of_get?_erase {t : Tree} {l m : Location} {e : Entry}
    (h : (t.erase l).get? m = some e) : t.get? m = some e := by
  by_cases hm : m = l
  · cases m with
    | nil => exact h
    | cons n m =>
        rw [← hm, get?_erase_self t (List.cons_ne_nil n m)] at h
        cases h
  · rwa [get?_erase_of_ne t hm] at h

theorem get?_insert_of_ne (t : Tree) {l m : Location} (e : Entry) (h : m ≠ l) :
    (t.insert l e).get? m = t.get? m := by
  cases m with
  | nil => rfl
  | cons n m =>
      have hne : ((n :: m) == l) = false := by simpa using h
      rw [get?_of_ne_nil _ (List.cons_ne_nil n m), get?_of_ne_nil _ (List.cons_ne_nil n m), insert,
        List.lookup_cons, hne, lookup_filter_ne, if_neg h]

theorem get?_insert_self (t : Tree) {l : Location} (e : Entry) (h : l ≠ []) :
    (t.insert l e).get? l = some e := by
  rw [get?_of_ne_nil _ h, insert, List.lookup_cons, beq_self_eq_true]

theorem ne_nil_of_get?_eq_none {t : Tree} {l : Location} (h : t.get? l = none) : l ≠ [] := by
  rintro rfl
  cases h

/-- A directory in which there is something is occupied. -/
theorem isOccupied_of_get? {t : Tree} {n : Name} {l : Location} {e : Entry}
    (h : t.get? (n :: l) = some e) : t.isOccupied l := by
  rw [get?_of_ne_nil _ (List.cons_ne_nil n l)] at h
  obtain ⟨before, after, hentries, -⟩ := List.lookup_eq_some_iff.mp h
  rw [isOccupied, List.any_eq_true]
  exact ⟨(n :: l, e), by rw [hentries]; simp, by simp⟩

/-- A directory is occupied if there is something in it. -/
theorem isOccupied_iff {t : Tree} {l : Location} : t.isOccupied l ↔ ∃ n e, t.get? (n :: l) = some e := by
  constructor
  · intro h
    obtain ⟨⟨m, e⟩, hmem, hm⟩ := List.any_eq_true.mp h
    cases m with
    | nil => cases hm
    | cons n dir =>
        obtain rfl : dir = l := by simpa using hm
        have hlookup : t.entries.lookup (n :: dir) ≠ none := by
          intro hnone
          simpa using List.lookup_eq_none_iff.mp hnone _ hmem
        obtain ⟨e', he'⟩ := Option.ne_none_iff_exists'.mp hlookup
        exact ⟨n, e', he'⟩
  · rintro ⟨n, e, h⟩
    exact isOccupied_of_get? h

theorem isDirectory_iff {t : Tree} {l : Location} :
    t.isDirectory l ↔ ∃ mode, t.get? l = some (.directory mode) := by
  rw [isDirectory, Option.any_eq_true]
  constructor
  · rintro ⟨e, he, hdirectory⟩
    cases e with
    | directory mode => exact ⟨mode, he⟩
    | file | link | socket => cases hdirectory
  · rintro ⟨mode, hmode⟩
    exact ⟨.directory mode, hmode, rfl⟩

/-! ## Locations within directories -/

/-- Whether everything around a location is a directory. -/
def Enclosed (t : Tree) (l : Location) : Prop := ∀ m, m <:+ l → m ≠ l → t.isDirectory m

theorem enclosed_nil (t : Tree) : t.Enclosed [] := by
  intro m hm hne
  exact absurd (List.suffix_nil.mp hm) hne

theorem Enclosed.cons {t : Tree} {l : Location} (h : t.Enclosed l) (hl : t.isDirectory l) (n : Name) :
    t.Enclosed (n :: l) := by
  intro m hm hne
  rcases List.suffix_cons_iff.mp hm with rfl | hm
  · exact absurd rfl hne
  · by_cases hml : m = l
    · rw [hml]
      exact hl
    · exact h m hm hml

theorem Enclosed.tail {t : Tree} {l : Location} (h : t.Enclosed l) : t.Enclosed l.tail := by
  cases l with
  | nil => exact h
  | cons n l =>
      intro m hm hne
      refine h m (hm.trans (List.suffix_cons n l)) ?_
      rintro rfl
      exact absurd hm.length_le (by simp)

/-- The directory of an enclosed location is a directory, as is the root. -/
theorem Enclosed.isDirectory_tail {t : Tree} {l : Location} (h : t.Enclosed l) : t.isDirectory l.tail := by
  cases l with
  | nil => rfl
  | cons n l => exact h l (List.suffix_cons n l) (by simp)

/-- Everything around a location is occupied, if there is something at the location. -/
theorem Enclosed.isOccupied {t : Tree} {l m : Location} {e : Entry} (h : t.Enclosed l)
    (he : t.get? l = some e) (hm : m <:+ l) (hne : m ≠ l) : t.isOccupied m := by
  obtain ⟨inner, rfl⟩ := hm
  rcases List.eq_nil_or_concat inner with rfl | ⟨inner, n, rfl⟩
  · exact absurd rfl hne
  · rw [List.concat_append] at h he
    by_cases hlast : n :: m = inner ++ n :: m
    · rw [← hlast] at he
      exact isOccupied_of_get? he
    · obtain ⟨mode, hmode⟩ := isDirectory_iff.mp (h (n :: m) (List.suffix_append _ _) hlast)
      exact isOccupied_of_get? hmode

/-! ## Walks -/

/-- How a walk stops that goes on where another one stopped. -/
def Stop.andThen (ms : List Name) (next : Location → Stop) : Stop → Stop
  | .here l => next l
  | .link directory target rest => .link directory target (rest ++ ms)
  | .failed e => .failed e

theorem advance_append (t : Tree) (l : Location) (ns ms : List Name) :
    t.advance l (ns ++ ms) = (t.advance l ns).andThen ms (t.advance · ms) := by
  induction ns generalizing l with
  | nil => rfl
  | cons n ns ih =>
      rw [List.cons_append, advance, advance]
      split
      · rfl
      · split
        · exact ih l
        · split
          · exact ih l.tail
          · split
            · rfl
            · split
              · rfl
              · rfl
              · exact ih (n :: l)

theorem advance_cons_of_not_isDirectory {t : Tree} {l : Location} (h : ¬t.isDirectory l) (n : Name)
    (ns : List Name) : t.advance l (n :: ns) = .failed .notDirectory := by
  rw [advance, if_pos (by simpa using h)]

/-- A walk comes only to locations within directories, and so does one that is stopped by a link. -/
theorem enclosed_of_advance {t : Tree} {l : Location} {ns : List Name} (hl : t.Enclosed l) :
    (∀ m, t.advance l ns = .here m → t.Enclosed m) ∧
      ∀ m target rest, t.advance l ns = .link m target rest → t.Enclosed m := by
  induction ns generalizing l with
  | nil =>
      constructor
      · rintro m ⟨⟩
        exact hl
      · rintro m target rest ⟨⟩
  | cons n ns ih =>
      rw [advance]
      split
      · exact ⟨nofun, nofun⟩
      · next hdirectory =>
          have hdirectory : t.isDirectory l := by simpa using hdirectory
          split
          · exact ih hl
          · split
            · exact ih hl.tail
            · split
              · exact ⟨nofun, nofun⟩
              · split
                · exact ⟨nofun, nofun⟩
                · refine ⟨nofun, ?_⟩
                  rintro m target rest ⟨⟩
                  exact hl
                · exact ih (hl.cons hdirectory n)

/-- Where a walk goes on that is stopped by a link is within directories, like where it began. -/
theorem enclosed_of_link {t : Tree} {l d : Location} {ns rest : List Name} {target : Path}
    (hl : t.Enclosed l) (h : t.advance l ns = .link d target rest) :
    t.Enclosed (if Path.isAbsolute target then [] else d) := by
  split
  · exact t.enclosed_nil
  · exact (enclosed_of_advance hl).2 _ _ _ h

theorem walk_of_here {t : Tree} {l m : Location} {ns : List Name} (h : t.advance l ns = .here m)
    (links : Nat) : t.walk links l ns = .ok m := by
  rw [walk.eq_def]
  simp only [h]

theorem walk_of_link {t : Tree} {l d : Location} {ns rest : List Name} {target : Path}
    (h : t.advance l ns = .link d target rest) (links : Nat) :
    t.walk (links + 1) l ns =
      t.walk links (if Path.isAbsolute target then [] else d) (Path.steps target ++ rest) := by
  rw [walk.eq_def]
  simp only [h]

/-- Induction over a walk that comes to a location: it comes there directly, or goes on from a link. -/
theorem walk_induction {t : Tree} {m : Location} {motive : Nat → Location → List Name → Prop}
    (here : ∀ {links l ns}, t.advance l ns = .here m → motive links l ns)
    (link : ∀ {links l ns d target rest}, t.advance l ns = .link d target rest →
      motive links (if Path.isAbsolute target then [] else d) (Path.steps target ++ rest) →
        motive (links + 1) l ns)
    {links : Nat} {l : Location} {ns : List Name} (h : t.walk links l ns = .ok m) :
    motive links l ns := by
  fun_induction walk t links l ns with
  | case1 links l ns d hadvance =>
      obtain rfl := Except.ok.inj h
      exact here hadvance
  | case2 => cases h
  | case3 => cases h
  | case4 l ns d target rest hadvance links ih => exact link hadvance (ih h)

theorem enclosed_of_walk {t : Tree} {links : Nat} {l m : Location} {ns : List Name} (hl : t.Enclosed l)
    (h : t.walk links l ns = .ok m) : t.Enclosed m := by
  refine walk_induction (motive := fun _ l _ => t.Enclosed l → t.Enclosed m) ?_ ?_ h hl
  · intro links l ns hadvance hl
    exact (enclosed_of_advance hl).1 _ hadvance
  · intro links l ns d target rest hadvance ih hl
    exact ih (enclosed_of_link hl hadvance)

/-- A step that passes through what a name stands for, whatever that is, as long as it is no link. -/
theorem advance_cons_of_get? {t : Tree} {l : Location} {n : Name} {e : Entry} (hl : t.isDirectory l)
    (hdot : n ≠ Path.dot) (hdotDot : n ≠ Path.dotDot) (hlength : n.length ≤ nameLimit)
    (he : t.get? (n :: l) = some e) (hlink : ∀ target, e ≠ .link target) (ns : List Name) :
    t.advance l (n :: ns) = t.advance (n :: l) ns := by
  rw [advance, if_neg (by simp [hl]), if_neg hdot, if_neg hdotDot, if_neg (Nat.not_lt.mpr hlength), he]
  cases e with
  | link target => exact absurd rfl (hlink target)
  | directory | file | socket => rfl

/-- One more name leads from a directory to what it names there, unless that is a link. -/
theorem walk_append_name {t : Tree} {links : Nat} {l d : Location} {ns : List Name} {n : Name}
    {e : Entry} (h : t.walk links l ns = .ok d) (hd : t.isDirectory d) (hdot : n ≠ Path.dot)
    (hdotDot : n ≠ Path.dotDot) (hlength : n.length ≤ nameLimit) (he : t.get? (n :: d) = some e)
    (hlink : ∀ target, e ≠ .link target) : t.walk links l (ns ++ [n]) = .ok (n :: d) := by
  have hlast : t.advance d [n] = .here (n :: d) := advance_cons_of_get? hd hdot hdotDot hlength he hlink []
  refine walk_induction (motive := fun links l ns => t.walk links l (ns ++ [n]) = .ok (n :: d)) ?_ ?_ h
  · intro links l ns hadvance
    exact walk_of_here (by rw [advance_append, hadvance]; exact hlast) links
  · intro links l ns d target rest hadvance ih
    rw [List.append_assoc] at ih
    exact (walk_of_link (by rw [advance_append, hadvance]; rfl) links).trans ih

theorem advance_dots {t : Tree} {d : Location} (hd : t.Enclosed d) {n : Name}
    (hn : n = Path.dot ∨ n = Path.dotDot) :
    (∃ m, t.advance d [n] = .here m ∧ t.isDirectory m) ∨ ∃ e, t.advance d [n] = .failed e := by
  rw [advance]
  split
  · exact .inr ⟨_, rfl⟩
  · next hdirectory =>
      rcases hn with rfl | rfl
      · exact .inl ⟨d, rfl, by simpa using hdirectory⟩
      · exact .inl ⟨d.tail, rfl, hd.isDirectory_tail⟩

/-- A walk whose last component is no name comes to a directory, or stops with that component still to go. -/
theorem advance_append_dots {t : Tree} {l : Location} {ns : List Name} {n : Name} (hl : t.Enclosed l)
    (hn : n = Path.dot ∨ n = Path.dotDot) :
    (∀ m, t.advance l (ns ++ [n]) = .here m → t.isDirectory m) ∧
      ∀ d target rest, t.advance l (ns ++ [n]) = .link d target rest →
        ∃ before, rest = before ++ [n] := by
  rw [advance_append]
  cases hbefore : t.advance l ns with
  | here d =>
      simp only [Stop.andThen]
      rcases advance_dots ((enclosed_of_advance hl).1 _ hbefore) hn with ⟨m, hm, hdirectory⟩ | ⟨e, he⟩
      · rw [hm]
        refine ⟨?_, nofun⟩
        rintro _ ⟨⟩
        exact hdirectory
      · rw [he]
        exact ⟨nofun, nofun⟩
  | link d target rest =>
      refine ⟨nofun, ?_⟩
      rintro _ _ _ ⟨⟩
      exact ⟨rest, rfl⟩
  | failed e => exact ⟨nofun, nofun⟩

theorem isDirectory_of_walk_append {t : Tree} {links : Nat} {l m : Location} {ns : List Name} {n : Name}
    (hn : n = Path.dot ∨ n = Path.dotDot) (hl : t.Enclosed l) (h : t.walk links l (ns ++ [n]) = .ok m) :
    t.isDirectory m := by
  refine walk_induction
    (motive := fun _ l ms => ∀ ns, ms = ns ++ [n] → t.Enclosed l → t.isDirectory m) ?_ ?_ h ns rfl hl
  · rintro links l _ hadvance ns rfl hl
    exact (advance_append_dots hl hn).1 m hadvance
  · rintro links l _ d target rest hadvance ih ns rfl hl
    obtain ⟨before, rfl⟩ := (advance_append_dots hl hn).2 _ _ _ hadvance
    exact ih (Path.steps target ++ before) (List.append_assoc _ _ _).symm (enclosed_of_link hl hadvance)

/-! ## Parts of walks -/

theorem isDirectory_of_walk_cons {t : Tree} {links : Nat} {l m : Location} {n : Name} {ns : List Name}
    (h : t.walk links l (n :: ns) = .ok m) : t.isDirectory l := by
  by_contra hfile
  have hfailed := advance_cons_of_not_isDirectory hfile n ns
  refine walk_induction (motive := fun _ d all => d = l → all = n :: ns → False) ?_ ?_ h rfl rfl
  · rintro links d all hadvance rfl rfl
    cases hfailed.symm.trans hadvance
  · rintro links d all directory target rest hadvance - rfl rfl
    cases hfailed.symm.trans hadvance

/-- A walk of many components comes by where a walk of the first ones comes to. -/
theorem exists_walk_of_append {t : Tree} {links : Nat} {l m : Location} {ns ms : List Name}
    (h : t.walk links l (ns ++ ms) = .ok m) :
    ∃ d links', t.walk links l ns = .ok d ∧ t.walk links' d ms = .ok m := by
  refine (walk_induction (motive := fun links l all => t.walk links l all = .ok m ∧
    ∀ ns, all = ns ++ ms → ∃ d links', t.walk links l ns = .ok d ∧ t.walk links' d ms = .ok m)
    ?_ ?_ h).2 ns rfl
  · intro links l all hadvance
    refine ⟨walk_of_here hadvance links, ?_⟩
    rintro ns rfl
    rw [advance_append] at hadvance
    cases hfirst : t.advance l ns with
    | here d =>
        rw [hfirst] at hadvance
        exact ⟨d, links, walk_of_here hfirst links, walk_of_here hadvance links⟩
    | link d target rest | failed e =>
        rw [hfirst] at hadvance
        cases hadvance
  · rintro links l all d target rest hadvance ⟨hwalk, ih⟩
    refine ⟨(walk_of_link hadvance links).trans hwalk, ?_⟩
    rintro ns rfl
    rw [advance_append] at hadvance
    cases hfirst : t.advance l ns with
    | here d' =>
        rw [hfirst] at hadvance
        exact ⟨d', links + 1, walk_of_here hfirst _, (walk_of_link hadvance links).trans hwalk⟩
    | link d' target' rest' =>
        rw [hfirst] at hadvance
        obtain ⟨rfl, rfl, rfl⟩ := Stop.link.inj hadvance
        obtain ⟨d, links', hns, hms⟩ := ih _ (List.append_assoc _ _ _).symm
        exact ⟨d, links', (walk_of_link hfirst links).trans hns, hms⟩
    | failed e =>
        rw [hfirst] at hadvance
        cases hadvance

theorem advance_of_dots {t : Tree} {l : Location} {ns : List Name} (hns : ∀ n ∈ ns, n = Path.dot) :
    t.advance l ns = .here l ∨ ∃ e, t.advance l ns = .failed e := by
  induction ns with
  | nil => exact .inl rfl
  | cons n ns ih =>
      obtain rfl := hns n List.mem_cons_self
      rw [advance, if_pos rfl]
      split
      · exact .inr ⟨_, rfl⟩
      · exact ih fun n' hn' => hns n' (List.mem_cons_of_mem _ hn')

theorem eq_of_walk_dots {t : Tree} {links : Nat} {l m : Location} {ns : List Name}
    (hns : ∀ n ∈ ns, n = Path.dot) (h : t.walk links l ns = .ok m) : m = l := by
  have hstays := advance_of_dots (t := t) (l := l) hns
  refine walk_induction (motive := fun _ d all => d = l → all = ns → m = l) ?_ ?_ h rfl rfl
  · rintro links d all hadvance rfl rfl
    rcases hstays with hhere | ⟨e, hfailed⟩
    · exact Stop.here.inj (hadvance.symm.trans hhere)
    · cases hadvance.symm.trans hfailed
  · rintro links d all directory target rest hadvance - rfl rfl
    rcases hstays with hhere | ⟨e, hfailed⟩
    · cases hadvance.symm.trans hhere
    · cases hadvance.symm.trans hfailed

/-! ## Walks in other trees -/

/-- Whether a walk can go on at an entry. -/
def LeadsOn : Entry → Prop
  | .directory _ | .link _ => True
  | .file | .socket _ => False

theorem leadsOn_of_isDirectory {t : Tree} {l : Location} (h : t.isDirectory l) {e : Entry}
    (he : t.get? l = some e) : LeadsOn e := by
  obtain ⟨mode, hmode⟩ := isDirectory_iff.mp h
  obtain rfl := Option.some.inj (hmode.symm.trans he)
  trivial

/-- Whether a tree holds what another one holds, as far as it satisfies `P`. -/
def Keeps (P : Entry → Prop) (t' t : Tree) : Prop := ∀ l e, P e → t.get? l = some e → t'.get? l = some e

theorem Keeps.isDirectory {P : Entry → Prop} {t t' : Tree} (h : Keeps P t' t) (hP : ∀ e, LeadsOn e → P e)
    {l : Location} (hl : t.isDirectory l) : t'.isDirectory l := by
  obtain ⟨mode, hmode⟩ := isDirectory_iff.mp hl
  exact isDirectory_iff.mpr ⟨mode, h l _ (hP _ trivial) hmode⟩

/-- A walk in a tree goes the same way in one that holds whatever a walk can go through, and what it comes to in
the end. -/
theorem Keeps.advance_eq {P : Entry → Prop} {t t' : Tree} (h : Keeps P t' t) (hP : ∀ e, LeadsOn e → P e)
    {l : Location} {ns : List Name} (hfailed : ∀ e, t.advance l ns ≠ .failed e)
    (hhere : ∀ m e, t.advance l ns = .here m → t.get? m = some e → P e) :
    t'.advance l ns = t.advance l ns := by
  induction ns generalizing l with
  | nil => rfl
  | cons n ns ih =>
      rw [advance] at hfailed hhere ⊢
      rw [advance]
      by_cases hdirectory : t.isDirectory l
      · simp only [hdirectory, h.isDirectory hP hdirectory, Bool.not_true, Bool.false_eq_true,
          if_false] at hfailed hhere ⊢
        by_cases hdot : n = Path.dot
        · simp only [if_pos hdot] at hfailed hhere ⊢
          exact ih hfailed hhere
        · by_cases hdotDot : n = Path.dotDot
          · simp only [if_neg hdot, if_pos hdotDot] at hfailed hhere ⊢
            exact ih hfailed hhere
          · by_cases hlength : nameLimit < n.length
            · simp only [if_neg hdot, if_neg hdotDot, if_pos hlength] at hfailed
              exact absurd rfl (hfailed _)
            · simp only [if_neg hdot, if_neg hdotDot, if_neg hlength] at hfailed hhere ⊢
              cases hentry : t.get? (n :: l) with
              | none =>
                  rw [hentry] at hfailed
                  exact absurd rfl (hfailed _)
              | some e =>
                  rw [hentry] at hfailed hhere
                  cases e with
                  | link target => rw [h _ _ (hP (.link target) trivial) hentry]
                  | directory mode =>
                      rw [h _ _ (hP (.directory mode) trivial) hentry]
                      exact ih hfailed hhere
                  | file | socket =>
                      -- A walk that comes here has come to its end, for there is no way on.
                      cases ns with
                      | nil =>
                          rw [h _ _ (hhere _ _ rfl hentry) hentry]
                          rfl
                      | cons n' ns =>
                          have hfile : ¬t.isDirectory (n :: l) := by
                            rw [Tree.isDirectory, hentry]
                            exact Bool.false_ne_true
                          exact absurd (advance_cons_of_not_isDirectory hfile n' ns) (hfailed _)
      · rw [if_pos (by simp [hdirectory])] at hfailed
        exact absurd rfl (hfailed _)

theorem Keeps.walk_eq {P : Entry → Prop} {t t' : Tree} (h : Keeps P t' t) (hP : ∀ e, LeadsOn e → P e)
    {links : Nat} {l m : Location} {ns : List Name} (hm : ∀ e, t.get? m = some e → P e)
    (hwalk : t.walk links l ns = .ok m) : t'.walk links l ns = .ok m := by
  refine walk_induction (motive := fun links l ns => t'.walk links l ns = .ok m) ?_ ?_ hwalk
  · intro links l ns hadvance
    refine walk_of_here ((h.advance_eq hP (by simp [hadvance]) ?_).trans hadvance) links
    intro m' e hm' he
    obtain rfl : m = m' := Stop.here.inj (hadvance.symm.trans hm')
    exact hm e he
  · intro links l ns d target rest hadvance ih
    refine (walk_of_link ((h.advance_eq hP (by simp [hadvance]) ?_).trans hadvance) links).trans ih
    intro m' e hm'
    cases hadvance.symm.trans hm'

/-- Whether a tree holds everything that another one holds. -/
def Extends (t' t : Tree) : Prop := ∀ l e, t.get? l = some e → t'.get? l = some e

theorem extends_erase (t : Tree) (l : Location) : t.Extends (t.erase l) := fun _ _ => get?_of_get?_erase

theorem extends_insert {t : Tree} {l : Location} (h : t.get? l = none) (e : Entry) :
    (t.insert l e).Extends t := by
  intro m e' he'
  rw [get?_insert_of_ne t e (by rintro rfl; simp [h] at he'), he']

theorem Extends.keeps {t t' : Tree} (h : t'.Extends t) (P : Entry → Prop) : Keeps P t' t :=
  fun l e _ => h l e

theorem Extends.isDirectory {t t' : Tree} (h : t'.Extends t) {l : Location} (hl : t.isDirectory l) :
    t'.isDirectory l :=
  (h.keeps LeadsOn).isDirectory (fun _ => id) hl

theorem Extends.walk_eq {t t' : Tree} (h : t'.Extends t) {links : Nat} {l m : Location}
    {ns : List Name} (hwalk : t.walk links l ns = .ok m) : t'.walk links l ns = .ok m :=
  (h.keeps fun _ => True).walk_eq (fun _ _ => trivial) (fun _ _ => trivial) hwalk

/-! ## Walks without a way back -/

/-- The ways in which a walk that meets no link takes its first step. -/
theorem of_advance_cons {t : Tree} {l m : Location} {n : Name} {ns : List Name}
    (h : t.advance l (n :: ns) = .here m) :
    t.isDirectory l ∧
      (n = Path.dot ∧ t.advance l ns = .here m ∨
        n = Path.dotDot ∧ t.advance l.tail ns = .here m ∨
        n ≠ Path.dot ∧ n ≠ Path.dotDot ∧ n.length ≤ nameLimit ∧ t.advance (n :: l) ns = .here m) := by
  rw [advance] at h
  split at h
  · cases h
  · next hdirectory =>
      refine ⟨by simpa using hdirectory, ?_⟩
      split at h
      · next hdot => exact .inl ⟨hdot, h⟩
      · next hdot =>
          split at h
          · next hdotDot => exact .inr (.inl ⟨hdotDot, h⟩)
          · next hdotDot =>
              split at h
              · cases h
              · next hlength =>
                  split at h
                  · cases h
                  · cases h
                  · exact .inr (.inr ⟨hdot, hdotDot, Nat.not_lt.mp hlength, h⟩)

/-- A walk that meets no link and never goes back comes to a location within the one where it began. -/
theorem suffix_of_advance {t : Tree} {l m : Location} {ns : List Name} (hns : Path.dotDot ∉ ns)
    (h : t.advance l ns = .here m) : l <:+ m := by
  induction ns generalizing l with
  | nil =>
      cases h
      exact List.suffix_refl _
  | cons n ns ih =>
      rw [List.mem_cons, not_or] at hns
      obtain ⟨-, ⟨-, h⟩ | ⟨hdotDot, -⟩ | ⟨-, -, -, h⟩⟩ := of_advance_cons h
      · exact ih hns.2 h
      · exact absurd hdotDot.symm hns.1
      · exact (List.suffix_cons n l).trans (ih hns.2 h)

/-- Such a walk comes to the same location in any tree in which the directories around that are still there and
something that is no link is in its place. -/
theorem advance_of_enclosed {t t' : Tree} {l m : Location} {ns : List Name} (hns : Path.dotDot ∉ ns)
    (h : t.advance l ns = .here m) (hm : ¬t.isDirectory m) (henclosed : t'.Enclosed m) {e : Entry}
    (he : t'.get? m = some e) (hlink : ∀ target, e ≠ .link target) : t'.advance l ns = .here m := by
  induction ns generalizing l with
  | nil => exact h
  | cons n ns ih =>
      have hsuffix := suffix_of_advance hns h
      rw [List.mem_cons, not_or] at hns
      obtain ⟨hdirectory, hstep⟩ := of_advance_cons h
      have hl : t'.isDirectory l := henclosed l hsuffix fun heq => hm (heq ▸ hdirectory)
      obtain ⟨rfl, hrest⟩ | ⟨hdotDot, -⟩ | ⟨hdot, hdotDot, hlength, hrest⟩ := hstep
      · rw [advance, if_neg (by simp [hl]), if_pos rfl]
        exact ih hns.2 hrest
      · exact absurd hdotDot.symm hns.1
      · -- The name stands for what the walk comes to in the end, or for a directory around that.
        have hpass : ∃ e', t'.get? (n :: l) = some e' ∧ ∀ target, e' ≠ .link target := by
          by_cases hlast : n :: l = m
          · exact ⟨e, hlast ▸ he, hlink⟩
          · obtain ⟨mode, hmode⟩ := isDirectory_iff.mp (henclosed _ (suffix_of_advance hns.2 hrest) hlast)
            exact ⟨_, hmode, nofun⟩
        obtain ⟨e', he', hlink'⟩ := hpass
        rw [advance_cons_of_get? hl hdot hdotDot hlength he' hlink']
        exact ih hns.2 hrest

end TrafficShaping.Tree
