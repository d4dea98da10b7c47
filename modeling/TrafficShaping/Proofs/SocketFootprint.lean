import TrafficShaping.Proofs.PathParents
import TrafficShaping.Proofs.SocketOwnership

/-!
# What a server leaves in the file system

A server that starts makes directories, may remove a socket and puts one there, and each of these calls can fail
after the earlier ones took effect. Wherever it ends, the tree differs from the one before in three kinds of
places only: directories that the path goes through and that were missing, a socket at the path, and the server's
own socket. A guard that is let go then takes the socket away, and the directory around it if that is the
directory's only entry and the path of the directory names it.

The places are said in terms of the tree that is left and not of the one before. A path can go up again from a
directory that is missing at first, so only when its directories are there does it say where its socket is. That
the socket is then removed makes no difference to this, for no walk goes through a socket.
-/

namespace TrafficShaping

namespace Tree

variable {t t' : Tree} {p : Path} {l m : Location}

/-! ## The directories that a path goes through -/

/-- Whether a path comes by a location: some of its components lead there, but not all. -/
def Passes (t : Tree) (p : Path) (m : Location) : Prop :=
  ∃ before n after, Path.components p = before ++ n :: after ∧ t.walk linkLimit [] before = .ok m

/-- Whether the path of the directory around a path names a directory, and where that is. -/
def NamesParent (t : Tree) (p : Path) (d : Location) : Prop :=
  ∃ q, Path.parent? p = some q ∧ t.Names q d ∧ t.isDirectory d

/-- Whether a directory holds nothing but what is at a location. -/
def HoldsOnly (t : Tree) (d l : Location) : Prop := ∀ n, n :: d ≠ l → t.get? (n :: d) = none

theorem Names.ne_nil (h : t.Names p l) : l ≠ [] := by
  cases h
  exact List.cons_ne_nil _ _

theorem NamesParent.ne_nil {d : Location} (h : t.NamesParent p d) : d ≠ [] := by
  obtain ⟨q, -, hnames, -⟩ := h
  exact hnames.ne_nil

theorem NamesParent.exists_mode {d : Location} (h : t.NamesParent p d) :
    ∃ mode, t.get? d = some (.directory mode) := by
  obtain ⟨q, -, -, hdirectory⟩ := h
  exact isDirectory_iff.mp hdirectory

theorem Passes.of_keeps (h : Keeps LeadsOn t' t) (hm : t.isDirectory m) (hp : t.Passes p m) :
    t'.Passes p m := by
  obtain ⟨before, n, after, components, leads⟩ := hp
  exact ⟨before, n, after, components, h.walk_eq (fun _ => id) (fun _ => leadsOn_of_isDirectory hm) leads⟩

/-- The directory that a path names is where all of its components lead. -/
theorem Names.walk_components (h : t.Names p l) (hl : t.isDirectory l) :
    t.walk linkLimit [] (Path.components p) = .ok l := by
  obtain ⟨mode, hmode⟩ := isDirectory_iff.mp hl
  cases h with
  | entry components dot dotDot length leads directory =>
      rw [components]
      exact walk_append_name leads directory dot dotDot length hmode nofun

theorem Names.passes {q : Path} (h : t.Names q m) (hm : t.isDirectory m) (hq : q ∈ p.ancestors.tail) :
    t.Passes p m := by
  obtain ⟨n, after, hcomponents⟩ := Path.components_of_mem_ancestors hq
  exact ⟨Path.components q, n, after, hcomponents, h.walk_components hm⟩

/-- A path that names an entry goes through directories only. -/
theorem Names.exists_directory (h : t.Names p l) {before after : List Name} {n : Name}
    (hp : Path.components p = before ++ n :: after) :
    ∃ m, t.walk linkLimit [] before = .ok m ∧ t.isDirectory m := by
  cases h with
  | @entry init last d components dot dotDot length leads directory =>
      have hsplit : before ++ n :: after = init ++ [last] := hp.symm.trans components
      have hlength := congrArg List.length hsplit
      simp only [List.length_append, List.length_cons, List.length_nil] at hlength
      obtain ⟨rest, rfl⟩ : before <+: init :=
        List.prefix_of_prefix_length_le ⟨n :: after, hsplit⟩ (List.prefix_append _ _) (by omega)
      obtain ⟨m, links, hm, hrest⟩ := exists_walk_of_append leads
      refine ⟨m, hm, ?_⟩
      cases rest with
      | nil =>
          obtain rfl : m = d := Except.ok.inj ((walk_of_here rfl links).symm.trans hrest)
          exact directory
      | cons n' rest => exact isDirectory_of_walk_cons hrest

/-- The directory that a path's parent names is the one in which the path names an entry. -/
theorem Names.tail_eq (h : t.Names p l) {d : Location} (hd : t.NamesParent p d) : l.tail = d := by
  obtain ⟨q, hq, hnames, hdirectory⟩ := hd
  obtain ⟨-, dots, n, dots', hcut, hdots, hdots'⟩ := Path.isCut_of_parent? hq
  cases h with
  | @entry init last d' components dot dotDot length leads directory =>
      -- The last component names the entry, so nothing stands behind it.
      have hsplit : (Path.components q ++ dots) ++ n :: dots' = init ++ [last] := by
        rw [List.append_assoc, ← hcut, components]
      rcases List.eq_nil_or_concat dots' with rfl | ⟨others, dot', rfl⟩
      · obtain ⟨rfl, -⟩ := List.append_inj' hsplit rfl
        obtain ⟨m, links, hm, hrest⟩ := exists_walk_of_append leads
        obtain rfl : m = d := Except.ok.inj (hm.symm.trans (hnames.walk_components hdirectory))
        exact eq_of_walk_dots hdots hrest
      · have hsplit : (Path.components q ++ dots ++ n :: others) ++ [dot'] = init ++ [last] := by
          simpa using hsplit
        obtain rfl : dot' = last := List.singleton_inj.mp (List.append_inj' hsplit rfl).2
        exact absurd (hdots' dot' (by simp)) dot

theorem holdsOnly_iff (hl : l ≠ []) {d : Location} : t.HoldsOnly d l ↔ ¬(t.erase l).isOccupied d := by
  rw [isOccupied_iff]
  constructor
  · rintro h ⟨n, e, he⟩
    by_cases hn : n :: d = l
    · rw [hn, get?_erase_self t hl] at he
      cases he
    · rw [get?_erase_of_ne t hn, h n hn] at he
      cases he
  · intro h n hn
    refine Option.eq_none_iff_forall_ne_some.mpr fun e he => h ⟨n, e, ?_⟩
    rw [get?_erase_of_ne t hn, he]

/-- No walk goes through a socket. -/
theorem keeps_erase_socket {k : Nat} (hl : t.get? l = some (.socket k)) : Keeps LeadsOn (t.erase l) t := by
  intro m e hleads he
  refine (get?_erase_of_ne t ?_).trans he
  rintro rfl
  obtain rfl := Option.some.inj (hl.symm.trans he)
  exact hleads

end Tree

namespace FileSystem

/-! ## Starting -/

/-- Whether a directory around a path that was missing has been made at a location. -/
def MadeAround (t t' : Tree) (p : Path) (m : Location) : Prop :=
  t.get? m = none ∧ t'.get? m = some (.directory socketDirectoryMode) ∧ t'.Passes p m

/-- Whether a socket at a path has been removed from a location. -/
def Cleared (t t' : Tree) (p : Path) (m : Location) : Prop :=
  (∃ k, t.get? m = some (.socket k)) ∧ t'.get? m = none ∧ t'.Names p m

/-- What a server has made of a tree when it has started with a socket, which its path names at a location. -/
structure Started (t t' : Tree) (p : Path) (k : Nat) (l : Location) : Prop where
  names : t'.Names p l
  here : t'.get? l = some (.socket k)
  found : t'.lstat p = .ok (.socket k)
  before : ∀ e, t.get? l = some e → ∃ j, e = .socket j
  around : ∀ before n after, Path.components p = before ++ n :: after →
    ∃ m mode, t'.walk Tree.linkLimit [] before = .ok m ∧ t'.get? m = some (.directory mode) ∧
      (t.get? m = none → mode = socketDirectoryMode)
  elsewhere : ∀ m, m ≠ l → t'.get? m = t.get? m ∨ MadeAround t t' p m

/-- What a guard has made of a tree when it has been let go and its path named a location. -/
structure Released (t t' : Tree) (p : Path) (l : Location) : Prop where
  gone : t'.get? l = none
  notFound : ∀ e, t'.lstat p ≠ .ok e
  parent : ∀ d, t.NamesParent p d → d = l.tail ∧ (t'.get? d = none ↔ t.HoldsOnly d l)
  elsewhere : ∀ m, m ≠ l → t'.get? m = t.get? m ∨ t.NamesParent p m ∧ t'.get? m = none

variable {t t' : Tree} {p : Path} {k : Nat} {l m : Location}

theorem MadeAround.of_keeps {t'' : Tree} (h : MadeAround t t' p m)
    (hkeeps : Tree.Keeps Tree.LeadsOn t'' t') : MadeAround t t'' p m := by
  obtain ⟨hnone, hmade, hpasses⟩ := h
  have hdirectory : t'.isDirectory m := Tree.isDirectory_iff.mpr ⟨_, hmade⟩
  exact ⟨hnone, hkeeps m _ trivial hmade, hpasses.of_keeps hkeeps hdirectory⟩

theorem withDirectories_footprint (t : Tree) (p : Path) (m : Location) :
    (withDirectories t p).get? m = t.get? m ∨ MadeAround t (withDirectories t p) p m := by
  have hmakes := Tree.MakesDirectories.of_makeDirectories socketDirectoryMode p.ancestors.tail t
  change Tree.MakesDirectories _ _ t (withDirectories t p) at hmakes
  cases hbefore : t.get? m with
  | some e => exact .inl (hmakes.keeps m e hbefore)
  | none =>
      cases hafter : (withDirectories t p).get? m with
      | none => exact .inl rfl
      | some e =>
          obtain ⟨rfl, q, hq, hnames⟩ := hmakes.new m e hafter hbefore
          exact .inr ⟨hbefore, hafter, hnames.passes (Tree.isDirectory_iff.mpr ⟨_, hafter⟩) hq⟩

theorem makeRoom_eq (t : Tree) (p : Path) :
    (makeRoom t p).2 = withDirectories t p ∨
      ∃ k l, (withDirectories t p).Names p l ∧ (withDirectories t p).get? l = some (.socket k) ∧
        (makeRoom t p).2 = (withDirectories t p).erase l := by
  refine (makeRoom_cases t p).imp And.left ?_
  rintro ⟨k, ⟨-, hk⟩, hremoved⟩
  obtain ⟨-, -, -, l, hnames, hroom⟩ := Tree.removeFile_eq_ok_iff.mp hremoved
  obtain ⟨-, -, l', hnames', hsocket⟩ := (Tree.lstat_eq_ok_iff (Tree.not_isDirectory_socket k)).mp hk
  obtain rfl := hnames.unique hnames'
  exact ⟨k, l, hnames, hsocket, hroom⟩

/-- Making room changes nothing but directories around the path and a socket at it. -/
theorem makeRoom_footprint (t : Tree) (p : Path) (m : Location) :
    (makeRoom t p).2.get? m = t.get? m ∨ MadeAround t (makeRoom t p).2 p m ∨
      Cleared t (makeRoom t p).2 p m := by
  have hmade := withDirectories_footprint t p m
  rcases makeRoom_eq t p with hroom | ⟨k, l, hnames, hsocket, hroom⟩
  · rw [hroom]
    exact hmade.imp_right .inl
  · have hkeeps := Tree.keeps_erase_socket hsocket
    rw [hroom]
    by_cases hm : m = l
    · subst hm
      rcases hmade with hsame | ⟨-, hdirectory, -⟩
      · refine .inr (.inr ⟨⟨k, hsame.symm.trans hsocket⟩, ?_, hnames.of_keeps hkeeps⟩)
        exact Tree.get?_erase_self _ hnames.ne_nil
      · cases hsocket.symm.trans hdirectory
    · rw [Tree.get?_erase_of_ne _ hm]
      exact hmade.imp_right fun h => .inl (h.of_keeps hkeeps)

theorem Addressable.sendable (h : Addressable p) : Tree.Sendable p := ⟨h.1, h.2.trans (by decide)⟩

/-- A server that has started has put its socket where its path says, and nothing else since room was made. -/
theorem of_bind_eq_ok {fs : FileSystem} {listener : Listener} {g : SocketGuard}
    (h : (fs.bind p).1 = .ok (listener, g)) :
    listener.socket = fs.sockets ∧ g = ⟨p⟩ ∧ Addressable p ∧ ¬Tree.asksForDirectory p ∧
      ∃ l, (makeRoom fs.tree p).2.Names p l ∧ (makeRoom fs.tree p).2.get? l = none ∧
        (fs.bind p).2.tree = (makeRoom fs.tree p).2.insert l (.socket listener.socket) := by
  rcases fs.bind_cases p with ⟨e, he⟩ | ⟨t, hmade, hbind⟩
  · rw [he] at h
    cases h
  · rw [hbind] at h ⊢
    obtain ⟨rfl, rfl⟩ := Prod.mk.inj (Except.ok.inj h)
    obtain ⟨hnul, hlength, hask, l, hnames, hvacant, rfl⟩ := Tree.makeSocket_eq_ok hmade
    exact ⟨rfl, rfl, ⟨hnul, hlength⟩, hask, l, hnames, hvacant, rfl⟩

/-- The directories around a path that names an entry are there, and those that were missing have been made. -/
theorem around_of_names (hnames : t'.Names p l) (hl : ∀ mode, t'.get? l ≠ some (.directory mode))
    (helsewhere : ∀ m, m ≠ l → t'.get? m = t.get? m ∨ MadeAround t t' p m) {before after : List Name}
    {n : Name} (hp : Path.components p = before ++ n :: after) :
    ∃ m mode, t'.walk Tree.linkLimit [] before = .ok m ∧ t'.get? m = some (.directory mode) ∧
      (t.get? m = none → mode = socketDirectoryMode) := by
  obtain ⟨m, hm, hdirectory⟩ := hnames.exists_directory hp
  obtain ⟨mode, hmode⟩ := Tree.isDirectory_iff.mp hdirectory
  refine ⟨m, mode, hm, hmode, fun hnone => ?_⟩
  have hne : m ≠ l := by
    rintro rfl
    exact hl mode hmode
  rcases helsewhere m hne with hsame | ⟨-, hmade, -⟩
  · cases hmode.symm.trans (hsame.trans hnone)
  · exact Entry.directory.inj (Option.some.inj (hmode.symm.trans hmade))

theorem started_of_bind {fs : FileSystem} {listener : Listener} {g : SocketGuard}
    (h : (fs.bind p).1 = .ok (listener, g)) :
    ∃ l, Started fs.tree (fs.bind p).2.tree p listener.socket l := by
  obtain ⟨-, -, hp, hask, l, hnames, hvacant, htree⟩ := of_bind_eq_ok h
  have hextends := Tree.extends_insert hvacant (.socket listener.socket)
  have hroom := makeRoom_footprint fs.tree p
  rw [← htree] at hextends
  have hnames' := hnames.of_extends hextends
  have hhere : (fs.bind p).2.tree.get? l = some (.socket listener.socket) := by
    rw [htree]
    exact Tree.get?_insert_self _ _ hnames.ne_nil
  have helsewhere : ∀ m, m ≠ l →
      (fs.bind p).2.tree.get? m = fs.tree.get? m ∨ MadeAround fs.tree (fs.bind p).2.tree p m := by
    intro m hm
    rcases hroom m with hsame | hmade | ⟨-, -, hcleared⟩
    · left
      rw [htree, Tree.get?_insert_of_ne _ _ hm, hsame]
    · exact .inr (hmade.of_keeps (hextends.keeps _))
    · exact absurd (hcleared.unique hnames) hm
  refine ⟨l, {
    names := hnames'
    here := hhere
    found := (Tree.lstat_eq_ok_iff (Tree.not_isDirectory_socket _)).mpr
      ⟨hp.sendable, hask, l, hnames', hhere⟩
    before := by
      intro e he
      rcases hroom l with hsame | ⟨hnone, -⟩ | ⟨⟨j, hj⟩, -⟩
      · cases hvacant.symm.trans (hsame.trans he)
      · cases hnone.symm.trans he
      · exact ⟨j, Option.some.inj (he.symm.trans hj)⟩
    around := fun _ _ _ => around_of_names hnames' (by rw [hhere]; nofun) helsewhere
    elsewhere := helsewhere }⟩

/-- A guard that is let go removes its socket, and then the directory around it if that holds nothing else. -/
theorem cleanUp_cases (hl : t.Names p l) (hsocket : t.get? l = some (.socket k))
    (hfound : t.lstat p = .ok (.socket k)) :
    cleanUp t ⟨p⟩ = t.erase l ∧ (∀ d, t.NamesParent p d → ¬t.HoldsOnly d l) ∨
      ∃ d, t.NamesParent p d ∧ t.HoldsOnly d l ∧ cleanUp t ⟨p⟩ = (t.erase l).erase d := by
  have hfile := Tree.not_isDirectory_socket k
  have hremoved : t.removeFile p = .ok (t.erase l) :=
    Tree.removeFile_eq_ok_iff.mpr ⟨_, hfile, hfound, l, hl, rfl⟩
  cases hq : p.parent? with
  | none =>
      have hclean : cleanUp t ⟨p⟩ = t.erase l := by
        rw [cleanUp, hremoved]
        simp only [hq]
        rfl
      refine .inl ⟨hclean, ?_⟩
      rintro d ⟨q, hparent, -⟩
      cases hq.symm.trans hparent
  | some q =>
      have hclean : cleanUp t ⟨p⟩ = ((t.erase l).removeDirectory q).toOption.getD (t.erase l) := by
        rw [cleanUp, hremoved]
        simp only [hq]
        rfl
      cases hremoved : (t.erase l).removeDirectory q with
      | ok u =>
          obtain ⟨-, d, hnames, hdirectory, hempty, rfl⟩ := Tree.removeDirectory_eq_ok_iff.mp hremoved
          rw [hremoved] at hclean
          refine .inr ⟨d, ⟨q, hq, ?_, ?_⟩, (Tree.holdsOnly_iff hl.ne_nil).mpr hempty, hclean⟩
          · exact hnames.of_extends (t.extends_erase l)
          · exact (t.extends_erase l).isDirectory hdirectory
      | error e =>
          rw [hremoved] at hclean
          refine .inl ⟨hclean, ?_⟩
          rintro d ⟨q', hq', hnames, hdirectory⟩ honly
          obtain rfl := Option.some.inj (hq.symm.trans hq')
          obtain ⟨hp, -⟩ := (Tree.lstat_eq_ok_iff hfile).mp hfound
          have hkeeps := Tree.keeps_erase_socket hsocket
          have hok := Tree.removeDirectory_eq_ok_iff.mpr
            ⟨hp.of_prefix (Path.isCut_of_parent? hq).1, d, hnames.of_keeps hkeeps,
              hkeeps.isDirectory (fun _ => id) hdirectory, (Tree.holdsOnly_iff hl.ne_nil).mp honly, rfl⟩
          cases hremoved.symm.trans hok

/-- Once a socket has been taken away from where a path names it, nothing is found at the path. -/
theorem lstat_ne_ok {u : Tree} (hl : t.Names p l) (hfound : t.lstat p = .ok (.socket k))
    (hkept : t.Extends u) (hgone : u.get? l = none) (e : Entry) : u.lstat p ≠ .ok e := by
  intro he
  obtain rfl : e = .socket k := Except.ok.inj ((hkept.lstat_eq he).symm.trans hfound)
  obtain ⟨-, -, l', hnames, hl'⟩ := (Tree.lstat_eq_ok_iff (Tree.not_isDirectory_socket k)).mp he
  obtain rfl := hl.unique (hnames.of_extends hkept)
  cases hgone.symm.trans hl'

theorem released_cleanUp (hl : t.Names p l) (hsocket : t.get? l = some (.socket k))
    (hfound : t.lstat p = .ok (.socket k)) : Released t (cleanUp t ⟨p⟩) p l := by
  have hne : ∀ d, t.NamesParent p d → d ≠ l := by
    rintro d hd rfl
    obtain ⟨mode, hmode⟩ := hd.exists_mode
    cases hsocket.symm.trans hmode
  have herased : (t.erase l).get? l = none := Tree.get?_erase_self t hl.ne_nil
  rcases cleanUp_cases hl hsocket hfound with ⟨hclean, hkept⟩ | ⟨d', hd', honly, hclean⟩
  · rw [hclean]
    exact {
      gone := herased
      notFound := lstat_ne_ok hl hfound (t.extends_erase l) herased
      parent := by
        intro d hd
        obtain ⟨mode, hmode⟩ := hd.exists_mode
        refine ⟨(hl.tail_eq hd).symm, ?_⟩
        rw [Tree.get?_erase_of_ne t (hne d hd), hmode]
        exact iff_of_false nofun (hkept d hd)
      elsewhere := fun m hm => .inl (Tree.get?_erase_of_ne t hm) }
  · have hgone : ((t.erase l).erase d').get? l = none := by
      rw [Tree.get?_erase_of_ne _ (hne d' hd').symm, herased]
    have hkept : t.Extends ((t.erase l).erase d') := fun _ _ h =>
      Tree.get?_of_get?_erase (Tree.get?_of_get?_erase h)
    rw [hclean]
    exact {
      gone := hgone
      notFound := lstat_ne_ok hl hfound hkept hgone
      parent := by
        intro d hd
        obtain rfl : d' = d := (hl.tail_eq hd').symm.trans (hl.tail_eq hd)
        exact ⟨(hl.tail_eq hd).symm, iff_of_true (Tree.get?_erase_self _ hd.ne_nil) honly⟩
      elsewhere := by
        intro m hm
        by_cases hmd : m = d'
        · subst hmd
          exact .inr ⟨hd', Tree.get?_erase_self _ hd'.ne_nil⟩
        · exact .inl (by rw [Tree.get?_erase_of_ne _ hmd, Tree.get?_erase_of_ne t hm]) }

end FileSystem

end TrafficShaping
