import TrafficShaping.Proofs.FileTrees

/-!
# What operations on files have done when they succeed

An operation that looks at an entry or removes one looks for it in the same way, so what is found at a path is
what is removed there: a path names an entry when all components but the last lead to a directory, and the
last is the name of the entry in there. Nothing else can be looked up without following a link, except for
directories.
-/

namespace TrafficShaping.Tree

/-! ## Handing paths over -/

/-- Whether a path can be handed to the system. -/
def Sendable (p : Path) : Prop := 0 ∉ p ∧ p.length < pathLimit

theorem Sendable.of_prefix {p q : Path} (h : Sendable p) (hq : q <+: p) : Sendable q :=
  ⟨fun hnul => h.1 (hq.subset hnul), hq.length_le.trans_lt h.2⟩

theorem call_eq_ok_iff {α : Type} {p : Path} {answer : Except Errno α} {a : α} :
    call p answer = .ok a ↔ Sendable p ∧ answer = .ok a := by
  rw [call, Sendable]
  split
  · next hnul => simp [hnul]
  · next hnul =>
      split
      · next hlength => simp [hnul, Nat.not_lt.mpr hlength]
      · next hlength => cases answer <;> simp [hnul, Nat.not_le.mp hlength, Except.mapError]

theorem bind_eq_ok_iff {ε α β : Type} {a : Except ε α} {f : α → Except ε β} {b : β} :
    (a >>= f) = .ok b ↔ ∃ c, a = .ok c ∧ f c = .ok b := by
  cases a with
  | error e => simp [bind, Except.bind]
  | ok c => simp [bind, Except.bind]

/-! ## Entries that are named -/

/-- Whether a path names an entry of a directory, and where that entry is or would be. -/
inductive Names (t : Tree) (p : Path) : Location → Prop where
  | entry {before : List Name} {n : Name} {d : Location} (components : Path.components p = before ++ [n])
      (dot : n ≠ Path.dot) (dotDot : n ≠ Path.dotDot) (length : n.length ≤ nameLimit)
      (leads : t.walk linkLimit [] before = .ok d) (directory : t.isDirectory d) : Names t p (n :: d)

theorem Names.enclosed {t : Tree} {p : Path} {l : Location} (h : t.Names p l) : t.Enclosed l := by
  cases h with
  | entry components dot dotDot length leads directory =>
      exact (enclosed_of_walk t.enclosed_nil leads).cons directory _

/-- A path names the same entry as long as the directories and links are there. -/
theorem Names.of_keeps {t t' : Tree} (h : Keeps LeadsOn t' t) {p : Path} {l : Location} (hl : t.Names p l) :
    t'.Names p l := by
  cases hl with
  | entry components dot dotDot length leads directory =>
      refine .entry components dot dotDot length ?_ (h.isDirectory (fun _ => id) directory)
      exact h.walk_eq (fun _ => id) (fun _ => leadsOn_of_isDirectory directory) leads

theorem Names.of_extends {t t' : Tree} (h : t'.Extends t) {p : Path} {l : Location} (hl : t.Names p l) :
    t'.Names p l :=
  hl.of_keeps (h.keeps LeadsOn)

theorem lastOfName_eq_name_iff {n m : Name} :
    Last.ofName n = .name m ↔ n = m ∧ n ≠ Path.dot ∧ n ≠ Path.dotDot := by
  rw [Last.ofName]
  split
  · next hdot => simp [hdot]
  · next hdot =>
      split
      · next hdotDot => simp [hdotDot]
      · next hdotDot => simp [hdot, hdotDot]

theorem place_eq_ok_name_iff {t : Tree} {p : Path} {d : Location} {n : Name} :
    t.place p = .ok (d, .name n) ↔
      ∃ before, Path.components p = before ++ [n] ∧ n ≠ Path.dot ∧ n ≠ Path.dotDot ∧
        t.walk linkLimit [] before = .ok d ∧ t.isDirectory d := by
  rw [place]
  split
  · next hcomponents =>
      rw [List.reverse_eq_nil_iff] at hcomponents
      rw [hcomponents]
      split <;> simp
  · next last before hcomponents =>
      have hcomponents : Path.components p = before.reverse ++ [last] := by
        simpa using congrArg List.reverse hcomponents
      rw [bind_eq_ok_iff, hcomponents]
      constructor
      · rintro ⟨d', hd', h⟩
        split at h
        · next hdirectory =>
            obtain ⟨rfl, hlast⟩ := Prod.mk.inj (Except.ok.inj h)
            obtain ⟨rfl, hdot, hdotDot⟩ := lastOfName_eq_name_iff.mp hlast
            exact ⟨before.reverse, rfl, hdot, hdotDot, hd', hdirectory⟩
        · cases h
      · rintro ⟨others, happend, hdot, hdotDot, hd, hdirectory⟩
        obtain ⟨rfl, hlast⟩ := List.append_inj' happend rfl
        obtain rfl : last = n := by simpa using hlast
        refine ⟨d, hd, ?_⟩
        rw [if_pos hdirectory, lastOfName_eq_name_iff.mpr ⟨rfl, hdot, hdotDot⟩]
        rfl

theorem placeEntry_eq_ok_iff {t : Tree} {p : Path} {otherwise : Last → Errno} {l : Location} :
    t.placeEntry p otherwise = .ok l ↔ t.Names p l := by
  rw [placeEntry, bind_eq_ok_iff]
  constructor
  · rintro ⟨⟨d, last⟩, hplace, h⟩
    cases last with
    | name n =>
        obtain ⟨before, components, dot, dotDot, leads, directory⟩ := place_eq_ok_name_iff.mp hplace
        dsimp only at h
        split at h
        · cases h
        · next hlength =>
            obtain rfl := Except.ok.inj h
            exact .entry components dot dotDot (Nat.not_lt.mp hlength) leads directory
    | dot | dotDot | root => cases h
  · rintro @⟨before, n, d, components, dot, dotDot, length, leads, directory⟩
    refine ⟨(d, .name n), place_eq_ok_name_iff.mpr ⟨before, components, dot, dotDot, leads, directory⟩, ?_⟩
    exact if_neg (Nat.not_lt.mpr length)

theorem Names.unique {t : Tree} {p : Path} {l m : Location} (hl : t.Names p l) (hm : t.Names p m) :
    l = m := by
  have hplace : t.placeEntry p (fun _ => .invalid) = .ok l := placeEntry_eq_ok_iff.mpr hl
  rw [placeEntry_eq_ok_iff.mpr hm] at hplace
  exact (Except.ok.inj hplace).symm

/-! ## Looking -/

theorem elim_eq_ok_iff {α : Type} {o : Option α} {error : Errno} {a : α} :
    (o.elim (throw error) pure : Except Errno α) = .ok a ↔ o = some a := by
  cases o <;> simp [throw, throwThe, MonadExceptOf.throw, pure, Except.pure]

theorem stat_eq_ok_iff {t : Tree} {p : Path} {e : Entry} :
    t.stat p = .ok e ↔ Sendable p ∧ ∃ l, t.find p = .ok l ∧ t.get? l = some e := by
  simp only [stat, call_eq_ok_iff, bind_eq_ok_iff, elim_eq_ok_iff]

/-- A path that ends in a slash leads to a directory, if it leads anywhere. -/
theorem isDirectory_of_stat {t : Tree} {p : Path} {e : Entry} (hp : asksForDirectory p)
    (h : t.stat p = .ok e) : e.isDirectory := by
  obtain ⟨-, l, hfind, hl⟩ := stat_eq_ok_iff.mp h
  have hslash : p.getLast? = some Path.slash := by simpa [asksForDirectory] using hp
  rw [find] at hfind
  split at hfind
  · cases hfind
  · rw [Path.steps, if_pos hslash] at hfind
    obtain ⟨mode, hmode⟩ :=
      isDirectory_iff.mp (isDirectory_of_walk_append (.inl rfl) t.enclosed_nil hfind)
    obtain rfl : Entry.directory mode = e := Option.some.inj (hmode.symm.trans hl)
    rfl

theorem steps_of_not_asksForDirectory {p : Path} (hp : ¬asksForDirectory p) :
    Path.steps p = Path.components p := by
  have hslash : p.getLast? ≠ some Path.slash := by simpa [asksForDirectory] using hp
  rw [Path.steps, if_neg hslash, List.append_nil]

/-- A path whose last component is no name leads to a directory, if it leads anywhere. -/
theorem isDirectory_of_find {t : Tree} {p : Path} {d l : Location} {last : Last}
    (hp : ¬asksForDirectory p) (hplace : t.place p = .ok (d, last)) (hlast : ∀ n, last ≠ .name n)
    (h : t.find p = .ok l) : t.isDirectory l := by
  rw [find] at h
  split at h
  · cases h
  · next hne =>
      rw [steps_of_not_asksForDirectory hp] at h
      rw [place] at hplace
      split at hplace
      · next hcomponents =>
          rw [List.reverse_eq_nil_iff] at hcomponents
          rw [hcomponents, walk_of_here rfl] at h
          obtain rfl := Except.ok.inj h
          rfl
      · next n before hcomponents =>
          have hcomponents : Path.components p = before.reverse ++ [n] := by
            simpa using congrArg List.reverse hcomponents
          obtain ⟨d', -, hplace⟩ := bind_eq_ok_iff.mp hplace
          split at hplace
          · obtain ⟨-, rfl⟩ := Prod.mk.inj (Except.ok.inj hplace)
            have hn : n = Path.dot ∨ n = Path.dotDot := by
              by_contra hnot
              rw [not_or] at hnot
              exact hlast n (lastOfName_eq_name_iff.mpr ⟨rfl, hnot⟩)
            rw [hcomponents] at h
            exact isDirectory_of_walk_append hn t.enclosed_nil h
          · cases hplace

/-- What is found at a path and is no directory is the entry that the path names. -/
theorem lstat_eq_ok_iff {t : Tree} {p : Path} {e : Entry} (he : ¬e.isDirectory) :
    t.lstat p = .ok e ↔
      Sendable p ∧ ¬asksForDirectory p ∧ ∃ l, t.Names p l ∧ t.get? l = some e := by
  rw [lstat]
  split
  · next hask =>
      constructor
      · intro h
        exact absurd (isDirectory_of_stat hask h) he
      · rintro ⟨-, hnot, -⟩
        exact absurd hask hnot
  · next hask =>
      rw [call_eq_ok_iff, bind_eq_ok_iff]
      refine and_congr_right fun _ => ?_
      constructor
      · rintro ⟨⟨d, last⟩, hplace, h⟩
        refine ⟨hask, ?_⟩
        cases last with
        | name n =>
            obtain ⟨before, components, dot, dotDot, leads, directory⟩ := place_eq_ok_name_iff.mp hplace
            dsimp only at h
            split at h
            · cases h
            · next hlength =>
                exact ⟨n :: d, .entry components dot dotDot (Nat.not_lt.mp hlength) leads directory,
                  elim_eq_ok_iff.mp h⟩
        | dot | dotDot | root =>
            obtain ⟨l, hfind, h⟩ := bind_eq_ok_iff.mp h
            obtain ⟨mode, hmode⟩ := isDirectory_iff.mp (isDirectory_of_find hask hplace nofun hfind)
            rw [elim_eq_ok_iff, hmode] at h
            obtain rfl := Option.some.inj h
            exact absurd rfl he
      · rintro ⟨-, l, @⟨before, n, d, components, dot, dotDot, length, leads, directory⟩, hl⟩
        refine ⟨_, place_eq_ok_name_iff.mpr ⟨before, components, dot, dotDot, leads, directory⟩, ?_⟩
        exact (if_neg (Nat.not_lt.mpr length)).trans (elim_eq_ok_iff.mpr hl)

theorem Extends.find_eq {t t' : Tree} (h : t'.Extends t) {p : Path} {l : Location}
    (hfind : t.find p = .ok l) : t'.find p = .ok l := by
  rw [find] at hfind ⊢
  split at hfind
  · cases hfind
  · next hne => rw [if_neg hne, h.walk_eq hfind]

theorem Extends.place_eq {t t' : Tree} (h : t'.Extends t) {p : Path} {x : Location × Last}
    (hplace : t.place p = .ok x) : t'.place p = .ok x := by
  rw [place] at hplace ⊢
  split at hplace
  · exact hplace
  · obtain ⟨d, hd, hlast⟩ := bind_eq_ok_iff.mp hplace
    refine bind_eq_ok_iff.mpr ⟨d, h.walk_eq hd, ?_⟩
    split at hlast
    · next hdirectory => rwa [if_pos (h.isDirectory hdirectory)]
    · cases hlast

/-- What is found at a path is still found there when there is more in the tree. -/
theorem Extends.lstat_eq {t t' : Tree} (h : t'.Extends t) {p : Path} {e : Entry}
    (hp : t.lstat p = .ok e) : t'.lstat p = .ok e := by
  rw [lstat] at hp ⊢
  split at hp
  · next hask =>
      rw [if_pos hask]
      obtain ⟨hsendable, l, hfind, hl⟩ := stat_eq_ok_iff.mp hp
      exact stat_eq_ok_iff.mpr ⟨hsendable, l, h.find_eq hfind, h l e hl⟩
  · next hask =>
      rw [if_neg hask]
      obtain ⟨hsendable, hlook⟩ := call_eq_ok_iff.mp hp
      obtain ⟨⟨d, last⟩, hplace, hlook⟩ := bind_eq_ok_iff.mp hlook
      refine call_eq_ok_iff.mpr ⟨hsendable, bind_eq_ok_iff.mpr ⟨(d, last), h.place_eq hplace, ?_⟩⟩
      cases last with
      | name n =>
          dsimp only at hlook ⊢
          split at hlook
          · cases hlook
          · next hlength => rw [if_neg hlength, elim_eq_ok_iff.mpr (h _ e (elim_eq_ok_iff.mp hlook))]
      | dot | dotDot | root =>
          obtain ⟨l, hfind, hl⟩ := bind_eq_ok_iff.mp hlook
          exact bind_eq_ok_iff.mpr ⟨l, h.find_eq hfind, elim_eq_ok_iff.mpr (h l e (elim_eq_ok_iff.mp hl))⟩

/-- A path leads to the entry that it names, unless that is a link. -/
theorem Names.find_eq {t : Tree} {p : Path} {l : Location} {e : Entry} (h : t.Names p l)
    (hp : ¬asksForDirectory p) (he : t.get? l = some e) (hlink : ∀ target, e ≠ .link target) :
    t.find p = .ok l := by
  cases h with
  | entry components dot dotDot length leads directory =>
      have hne : p ≠ [] := by
        rintro rfl
        simp [Path.components, Path.segments, Text.pieces] at components
      rw [find, if_neg hne, steps_of_not_asksForDirectory hp, components]
      exact walk_append_name leads directory dot dotDot length he hlink

/-! ## Removing -/

/-- What can be removed and is no directory is what can be found there. -/
theorem removeFile_eq_ok_iff {t t' : Tree} {p : Path} :
    t.removeFile p = .ok t' ↔
      ∃ e, ¬e.isDirectory ∧ t.lstat p = .ok e ∧ ∃ l, t.Names p l ∧ t' = t.erase l := by
  rw [removeFile, call_eq_ok_iff, bind_eq_ok_iff]
  constructor
  · rintro ⟨hp, l, hplace, h⟩
    rw [placeEntry_eq_ok_iff] at hplace
    split at h
    · cases h
    · cases h
    · next e hdirectory he =>
        split at h
        · cases h
        · next hask =>
            obtain rfl := Except.ok.inj h
            have hfile : ¬e.isDirectory := by
              cases e with
              | directory mode => exact absurd rfl (hdirectory mode)
              | file | link | socket => exact Bool.false_ne_true
            exact ⟨e, hfile, (lstat_eq_ok_iff hfile).mpr ⟨hp, hask, l, hplace, he⟩, l, hplace, rfl⟩
  · rintro ⟨e, hfile, hlstat, l, hl, rfl⟩
    obtain ⟨hp, hask, m, hm, he⟩ := (lstat_eq_ok_iff hfile).mp hlstat
    obtain rfl := hl.unique hm
    refine ⟨hp, l, placeEntry_eq_ok_iff.mpr hl, ?_⟩
    rw [he]
    cases e with
    | directory mode => exact absurd rfl hfile
    | file | link | socket => exact if_neg hask

theorem removeDirectory_eq_ok_iff {t t' : Tree} {p : Path} :
    t.removeDirectory p = .ok t' ↔
      Sendable p ∧ ∃ l, t.Names p l ∧ t.isDirectory l ∧ ¬t.isOccupied l ∧ t' = t.erase l := by
  rw [removeDirectory, call_eq_ok_iff, bind_eq_ok_iff]
  refine and_congr_right fun _ => exists_congr fun l => ?_
  rw [placeEntry_eq_ok_iff]
  refine and_congr_right fun _ => ?_
  constructor
  · intro h
    split at h
    · cases h
    · next mode hmode =>
        split at h
        · cases h
        · next hoccupied =>
            exact ⟨isDirectory_iff.mpr ⟨mode, hmode⟩, hoccupied, (Except.ok.inj h).symm⟩
    · cases h
  · rintro ⟨hdirectory, hoccupied, rfl⟩
    obtain ⟨mode, hmode⟩ := isDirectory_iff.mp hdirectory
    rw [hmode]
    exact if_neg hoccupied

theorem removeDirectory_eq_ok {t t' : Tree} {p : Path} (h : t.removeDirectory p = .ok t') :
    ∃ l, t.isDirectory l ∧ ¬t.isOccupied l ∧ t' = t.erase l := by
  obtain ⟨-, l, -, hl⟩ := removeDirectory_eq_ok_iff.mp h
  exact ⟨l, hl⟩

/-! ## Making -/

theorem vacancy_eq_ok {t : Tree} {p : Path} {l : Location} (h : t.vacancy p = .ok l) :
    t.Names p l ∧ t.get? l = none := by
  rw [vacancy, bind_eq_ok_iff] at h
  obtain ⟨m, hplace, h⟩ := h
  split at h
  · cases h
  · next hvacant =>
      obtain rfl := Except.ok.inj h
      exact ⟨placeEntry_eq_ok_iff.mp hplace, hvacant⟩

theorem makeDirectory_eq_ok {t t' : Tree} {mode : Nat} {p : Path}
    (h : t.makeDirectory mode p = .ok t') :
    ∃ l, t.Names p l ∧ t.get? l = none ∧ t' = t.insert l (.directory mode) := by
  rw [makeDirectory, call_eq_ok_iff, bind_eq_ok_iff] at h
  obtain ⟨-, l, hvacancy, h⟩ := h
  obtain ⟨hnames, hvacant⟩ := vacancy_eq_ok hvacancy
  exact ⟨l, hnames, hvacant, (Except.ok.inj h).symm⟩

theorem makeSocket_eq_ok {t t' : Tree} {k : Nat} {p : Path} (h : t.makeSocket k p = .ok t') :
    0 ∉ p ∧ p.length < addressLimit ∧ ¬asksForDirectory p ∧
      ∃ l, t.Names p l ∧ t.get? l = none ∧ t' = t.insert l (.socket k) := by
  rw [makeSocket] at h
  split at h
  · cases h
  · next hnul =>
      split at h
      · cases h
      · next hlength =>
          have hmake : t.makeEntry (.socket k) p = .ok t' := by
            cases hmake : t.makeEntry (.socket k) p with
            | error e => simp [hmake, Except.mapError] at h
            | ok made => simpa [hmake, Except.mapError] using h
          rw [makeEntry, bind_eq_ok_iff] at hmake
          obtain ⟨l, hvacancy, hmake⟩ := hmake
          split at hmake
          · cases hmake
          · next hask =>
              obtain ⟨hnames, hvacant⟩ := vacancy_eq_ok hvacancy
              exact ⟨hnul, Nat.not_le.mp hlength, hask, l, hnames, hvacant, (Except.ok.inj hmake).symm⟩

/-- Whether a tree is another one with more directories in it. -/
structure AddsDirectories (t t' : Tree) : Prop where
  keeps : t'.Extends t
  adds : ∀ l e, t'.get? l = some e → ¬e.isDirectory → t.get? l = some e

/-- Whether a tree is another one with directories in it that were missing at some of the given paths. -/
structure MakesDirectories (mode : Nat) (ps : List Path) (t t' : Tree) : Prop where
  keeps : t'.Extends t
  new : ∀ l e, t'.get? l = some e → t.get? l = none → e = .directory mode ∧ ∃ p ∈ ps, t'.Names p l

namespace MakesDirectories

variable {mode : Nat} {ps : List Path} {t t' t'' : Tree}

theorem refl (mode : Nat) (ps : List Path) (t : Tree) : MakesDirectories mode ps t t where
  keeps _ _ h := h
  new l e he hnone := by simp [hnone] at he

theorem trans (h : MakesDirectories mode ps t t') (h' : MakesDirectories mode ps t' t'') :
    MakesDirectories mode ps t t'' where
  keeps l e he := h'.keeps l e (h.keeps l e he)
  new l e he hnone := by
    cases hmiddle : t'.get? l with
    | none => exact h'.new l e he hmiddle
    | some e' =>
        obtain rfl : e' = e := Option.some.inj ((h'.keeps l e' hmiddle).symm.trans he)
        obtain ⟨hdirectory, p, hp, hnames⟩ := h.new l e' hmiddle hnone
        exact ⟨hdirectory, p, hp, hnames.of_extends h'.keeps⟩

theorem mono (h : MakesDirectories mode ps t t') {ps' : List Path} (hps : ps ⊆ ps') :
    MakesDirectories mode ps' t t' where
  keeps := h.keeps
  new l e he hnone := by
    obtain ⟨hdirectory, p, hp, hnames⟩ := h.new l e he hnone
    exact ⟨hdirectory, p, hps hp, hnames⟩

theorem addsDirectories (h : MakesDirectories mode ps t t') : AddsDirectories t t' where
  keeps := h.keeps
  adds l e he hfile := by
    cases hbefore : t.get? l with
    | none =>
        obtain ⟨rfl, -⟩ := h.new l e he hbefore
        exact absurd rfl hfile
    | some e' => exact (h.keeps l e' hbefore).symm.trans he

theorem of_makeDirectory {p : Path} (hp : p ∈ ps) (h : t.makeDirectory mode p = .ok t') :
    MakesDirectories mode ps t t' := by
  obtain ⟨l, hnames, hvacant, rfl⟩ := makeDirectory_eq_ok h
  have hextends := extends_insert hvacant (.directory mode)
  refine ⟨hextends, fun m e he hnone => ?_⟩
  by_cases hm : m = l
  · rw [hm, get?_insert_self t _ (ne_nil_of_get?_eq_none hvacant)] at he
    exact ⟨(Option.some.inj he).symm, p, hp, hm ▸ hnames.of_extends hextends⟩
  · rw [get?_insert_of_ne t _ hm, hnone] at he
    cases he

/-- Directories that are made around others stay, even if there is an error later on. -/
theorem of_makeDirectories (mode : Nat) (ps : List Path) (t : Tree) :
    MakesDirectories mode ps t (makeDirectories mode ps t).2 := by
  induction ps generalizing t with
  | nil => exact .refl mode [] t
  | cons p around ih =>
      have hp : p ∈ p :: around := List.mem_cons_self
      rw [makeDirectories]
      split
      · exact .refl mode _ t
      · dsimp only
        split
        · -- The directories around are missing and are made before the directory itself.
          have haround := (ih t).mono (List.subset_cons_self p around)
          split
          · next hmade =>
              rw [hmade] at haround
              refine haround.trans ?_
              split
              · next hlast => exact .of_makeDirectory hp hlast
              · exact .refl mode _ _
          · next hmade =>
              rw [hmade] at haround
              exact haround
        · split
          · next hlast => exact .of_makeDirectory hp hlast
          · exact .refl mode _ t

end MakesDirectories

theorem addsDirectories_makeDirectories (mode : Nat) (ps : List Path) (t : Tree) :
    AddsDirectories t (makeDirectories mode ps t).2 :=
  (MakesDirectories.of_makeDirectories mode ps t).addsDirectories

/-! ## Reaching sockets -/

theorem reachSocket_eq_ok_iff {t : Tree} {p : Path} {k : Nat} :
    t.reachSocket p = .ok k ↔
      0 ∉ p ∧ p.length < addressLimit ∧ ∃ l, t.find p = .ok l ∧ t.get? l = some (.socket k) := by
  rw [reachSocket]
  split
  · next hnul => simp [hnul]
  · next hnul =>
      split
      · next hlength => simp [Nat.not_lt.mpr hlength]
      · next hlength =>
          have hlength := Nat.not_le.mp hlength
          have hsendable : Sendable p := ⟨hnul, hlength.trans (by decide)⟩
          have hstat : t.stat p = .ok (.socket k) ↔
              ∃ l, t.find p = .ok l ∧ t.get? l = some (.socket k) := by
            rw [stat_eq_ok_iff, and_iff_right hsendable]
          rw [and_iff_right hnul, and_iff_right hlength, ← hstat]
          split
          · next hk => simp [hk]
          · next e hother he =>
              rw [he]
              exact ⟨nofun, fun h => absurd (Except.ok.inj h) (hother k)⟩
          · next he => simp [he]

end TrafficShaping.Tree
