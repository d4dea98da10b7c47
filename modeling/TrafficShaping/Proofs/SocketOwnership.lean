import TrafficShaping.Proofs.FileCalls
import TrafficShaping.Server.Socket

/-!
# Who keeps a socket

Nothing in the file system says which server a socket belongs to. A server that starts takes any socket at its
path for one that was left behind, and a guard that is let go removes whatever is at its path by then. So when
two servers use one path, each can lose its socket to the other: the first one when the second one starts, and
the second one when the guard of the first one is let go after that.

A server keeps its socket exactly as long as neither happens to it. The argument follows one socket through the
changes of the tree. It stays where it was made, for all directories around it are occupied and cannot be
removed; and once it is gone it does not come back, for every new socket has a number of its own.
-/

namespace TrafficShaping

namespace Tree

/-! ## One socket in a tree -/

theorem not_isDirectory_socket (k : Nat) : ¬(Entry.socket k).isDirectory := Bool.false_ne_true

theorem socket_ne_link (k : Nat) (target : Path) : Entry.socket k ≠ .link target := Entry.noConfusion

/-- Whether a socket is at a location and nowhere else, and within directories. -/
structure Stands (t : Tree) (k : Nat) (l : Location) : Prop where
  here : t.get? l = some (.socket k)
  nowhereElse : ∀ m, t.get? m = some (.socket k) → m = l
  enclosed : t.Enclosed l

/-- Whether a socket is nowhere. -/
def Lacks (t : Tree) (k : Nat) : Prop := ∀ l, t.get? l ≠ some (.socket k)

variable {t t' : Tree} {k : Nat} {l : Location}

theorem Stands.ne_nil (h : t.Stands k l) : l ≠ [] := by
  rintro rfl
  exact absurd h.here nofun

theorem Stands.addsDirectories (h : t.Stands k l) (hadds : AddsDirectories t t') : t'.Stands k l where
  here := hadds.keeps l _ h.here
  nowhereElse m hm := h.nowhereElse m (hadds.adds m _ hm (not_isDirectory_socket k))
  enclosed m hm hne := hadds.keeps.isDirectory (h.enclosed m hm hne)

theorem Lacks.addsDirectories (h : t.Lacks k) (hadds : AddsDirectories t t') : t'.Lacks k :=
  fun m hm => h m (hadds.adds m _ hm (not_isDirectory_socket k))

/-- A socket stays when something else is removed that is no occupied directory. -/
theorem Stands.erase (h : t.Stands k l) {m : Location} (hne : m ≠ l)
    (hfree : ¬t.isDirectory m ∨ ¬t.isOccupied m) : (t.erase m).Stands k l where
  here := (get?_erase_of_ne t (Ne.symm hne)).trans h.here
  nowhereElse m' hm' := h.nowhereElse m' (get?_of_get?_erase hm')
  enclosed m' hm' hne' := by
    have hdirectory := h.enclosed m' hm' hne'
    have hother : m' ≠ m := by
      rintro rfl
      rcases hfree with hfile | hempty
      · exact hfile hdirectory
      · exact hempty (h.enclosed.isOccupied h.here hm' hne')
    rwa [isDirectory, get?_erase_of_ne t hother]

theorem Stands.lacks_erase (h : t.Stands k l) : (t.erase l).Lacks k := by
  intro m hm
  obtain rfl := h.nowhereElse m (get?_of_get?_erase hm)
  rw [get?_erase_self t h.ne_nil] at hm
  cases hm

theorem Lacks.erase (h : t.Lacks k) (m : Location) : (t.erase m).Lacks k :=
  fun m' hm' => h m' (get?_of_get?_erase hm')

theorem Lacks.insert (h : t.Lacks k) {m : Location} {j : Nat} (hvacant : t.get? m = none) (hj : j ≠ k) :
    (t.insert m (.socket j)).Lacks k := by
  intro m' hm'
  by_cases hm : m' = m
  · rw [hm, get?_insert_self t _ (ne_nil_of_get?_eq_none hvacant)] at hm'
    exact hj (by simpa using hm')
  · rw [get?_insert_of_ne t _ hm] at hm'
    exact h m' hm'

theorem Stands.insert (h : t.Stands k l) {m : Location} {j : Nat} (hvacant : t.get? m = none) (hj : j ≠ k) :
    (t.insert m (.socket j)).Stands k l where
  here := extends_insert hvacant _ l _ h.here
  nowhereElse m' hm' := by
    by_cases hm : m' = m
    · rw [hm, get?_insert_self t _ (ne_nil_of_get?_eq_none hvacant)] at hm'
      exact absurd (by simpa using hm') hj
    · rw [get?_insert_of_ne t _ hm] at hm'
      exact h.nowhereElse m' hm'
  enclosed m' hm' hne := (extends_insert hvacant _).isDirectory (h.enclosed m' hm' hne)

/-- A new socket is where it was put. -/
theorem Lacks.stands_insert (h : t.Lacks k) (hvacant : t.get? l = none) (hl : t.Enclosed l) :
    (t.insert l (.socket k)).Stands k l where
  here := get?_insert_self t _ (ne_nil_of_get?_eq_none hvacant)
  nowhereElse m hm := by
    by_contra hne
    rw [get?_insert_of_ne t _ hne] at hm
    exact h m hm
  enclosed m hm hne := (extends_insert hvacant _).isDirectory (hl m hm hne)

/-! ## Removals -/

theorem Stands.removeFile (h : t.Stands k l) {p : Path} (hr : t.removeFile p = .ok t')
    (hother : t.lstat p ≠ .ok (.socket k)) : t'.Stands k l := by
  obtain ⟨e, hfile, hlstat, m, hm, rfl⟩ := removeFile_eq_ok_iff.mp hr
  obtain ⟨-, -, m', hm', he⟩ := (lstat_eq_ok_iff hfile).mp hlstat
  obtain rfl := hm.unique hm'
  refine h.erase ?_ (.inl ?_)
  · rintro rfl
    obtain rfl := Option.some.inj (he.symm.trans h.here)
    exact hother hlstat
  · rw [isDirectory, he]
    exact hfile

theorem Stands.removeFile_eq (h : t.Stands k l) {p : Path} (hp : t.lstat p = .ok (.socket k)) :
    t.removeFile p = .ok (t.erase l) := by
  obtain ⟨-, -, m, hm, he⟩ := (lstat_eq_ok_iff (not_isDirectory_socket k)).mp hp
  obtain rfl := h.nowhereElse m he
  exact removeFile_eq_ok_iff.mpr ⟨_, not_isDirectory_socket k, hp, _, hm, rfl⟩

theorem Lacks.removeFile (h : t.Lacks k) {p : Path} (hr : t.removeFile p = .ok t') : t'.Lacks k := by
  obtain ⟨-, -, -, m, -, rfl⟩ := removeFile_eq_ok_iff.mp hr
  exact h.erase m

theorem Stands.removeDirectory (h : t.Stands k l) {p : Path} (hr : t.removeDirectory p = .ok t') :
    t'.Stands k l := by
  obtain ⟨m, hdirectory, hempty, rfl⟩ := removeDirectory_eq_ok hr
  refine h.erase ?_ (.inr hempty)
  rintro rfl
  rw [isDirectory, h.here] at hdirectory
  cases hdirectory

theorem Lacks.removeDirectory (h : t.Lacks k) {p : Path} (hr : t.removeDirectory p = .ok t') :
    t'.Lacks k := by
  obtain ⟨m, -, -, rfl⟩ := removeDirectory_eq_ok hr
  exact h.erase m

end Tree

namespace FileSystem

/-! ## Making room and cleaning up -/

/-- The tree in which a server that starts looks for a socket at its path. -/
def withDirectories (t : Tree) (p : Path) : Tree :=
  (Tree.makeDirectories socketDirectoryMode p.ancestors.tail t).2

/-- Whether a server that starts removes a socket. -/
def Replaces (t : Tree) (p : Path) (k : Nat) : Prop :=
  (Tree.makeDirectories socketDirectoryMode p.ancestors.tail t).1 = .ok () ∧
    (withDirectories t p).lstat p = .ok (.socket k)

theorem addsDirectories_withDirectories (t : Tree) (p : Path) :
    Tree.AddsDirectories t (withDirectories t p) :=
  Tree.addsDirectories_makeDirectories _ _ t

/-- Making room for a socket adds directories and removes a socket that is at the path. -/
theorem makeRoom_cases (t : Tree) (p : Path) :
    (makeRoom t p).2 = withDirectories t p ∧ (∀ k, ¬Replaces t p k) ∨
      ∃ k, Replaces t p k ∧ (withDirectories t p).removeFile p = .ok (makeRoom t p).2 := by
  simp only [makeRoom, Replaces, withDirectories]
  generalize Tree.makeDirectories socketDirectoryMode p.ancestors.tail t = made
  obtain ⟨error | -, made⟩ := made
  · exact .inl ⟨rfl, nofun⟩
  · dsimp only
    split
    · next k hp =>
        obtain ⟨-, -, m, hm, -⟩ := (Tree.lstat_eq_ok_iff (Tree.not_isDirectory_socket k)).mp hp
        have hremoved : made.removeFile p = .ok (made.erase m) :=
          Tree.removeFile_eq_ok_iff.mpr ⟨_, Tree.not_isDirectory_socket k, hp, m, hm, rfl⟩
        rw [hremoved]
        exact .inr ⟨k, ⟨rfl, hp⟩, rfl⟩
    · next e hother hp =>
        refine .inl ⟨rfl, fun k ⟨_, hk⟩ => hother k ?_⟩
        exact Except.ok.inj (hp.symm.trans hk)
    · next hp => exact .inl ⟨rfl, fun k ⟨_, hk⟩ => nomatch hp.symm.trans hk⟩
    · next hp => exact .inl ⟨rfl, fun k ⟨_, hk⟩ => nomatch hp.symm.trans hk⟩

variable {t : Tree} {k : Nat} {l : Location} {p : Path}

theorem stands_makeRoom (h : t.Stands k l) (hother : ¬Replaces t p k) :
    (makeRoom t p).2.Stands k l := by
  have hmade := h.addsDirectories (addsDirectories_withDirectories t p)
  rcases makeRoom_cases t p with ⟨hroom, -⟩ | ⟨j, hj, hremoved⟩
  · rwa [hroom]
  · refine hmade.removeFile hremoved fun hk => hother ⟨hj.1, hk⟩

theorem lacks_makeRoom_of_replaces (h : t.Stands k l) (hp : Replaces t p k) :
    (makeRoom t p).2.Lacks k := by
  have hmade := h.addsDirectories (addsDirectories_withDirectories t p)
  rcases makeRoom_cases t p with ⟨-, hnone⟩ | ⟨j, -, hremoved⟩
  · exact absurd hp (hnone k)
  · rw [hmade.removeFile_eq hp.2] at hremoved
    rw [← Except.ok.inj hremoved]
    exact hmade.lacks_erase

theorem lacks_makeRoom (h : t.Lacks k) (p : Path) : (makeRoom t p).2.Lacks k := by
  have hmade := h.addsDirectories (addsDirectories_withDirectories t p)
  rcases makeRoom_cases t p with ⟨hroom, -⟩ | ⟨j, -, hremoved⟩
  · rwa [hroom]
  · exact hmade.removeFile hremoved

/-- What holds of a tree and of whatever a call makes of it holds also when a failure is ignored. -/
theorem of_getD_toOption {P : Tree → Prop} {made : Except FileError Tree} (h : P t)
    (hmade : ∀ t', made = .ok t' → P t') : P (made.toOption.getD t) := by
  cases made with
  | error e => exact h
  | ok t' => exact hmade t' rfl

theorem stands_cleanUp (h : t.Stands k l) {g : SocketGuard} (hother : t.lstat g.path ≠ .ok (.socket k)) :
    (cleanUp t g).Stands k l := by
  have hfile := of_getD_toOption (P := (Tree.Stands · k l)) h fun t' ht' => h.removeFile ht' hother
  rw [cleanUp]
  split
  · exact hfile
  · exact of_getD_toOption (P := (Tree.Stands · k l)) hfile fun t' ht' => hfile.removeDirectory ht'

theorem lacks_cleanUp_of_removeFile {g : SocketGuard}
    (hfile : ((t.removeFile g.path).toOption.getD t).Lacks k) : (cleanUp t g).Lacks k := by
  rw [cleanUp]
  split
  · exact hfile
  · exact of_getD_toOption (P := (Tree.Lacks · k)) hfile fun t' ht' => hfile.removeDirectory ht'

theorem lacks_cleanUp_of_lstat (h : t.Stands k l) {g : SocketGuard}
    (hg : t.lstat g.path = .ok (.socket k)) : (cleanUp t g).Lacks k := by
  refine lacks_cleanUp_of_removeFile ?_
  rw [h.removeFile_eq hg]
  exact h.lacks_erase

theorem lacks_cleanUp (h : t.Lacks k) (g : SocketGuard) : (cleanUp t g).Lacks k :=
  lacks_cleanUp_of_removeFile
    (of_getD_toOption (P := (Tree.Lacks · k)) h fun _ ht' => h.removeFile ht')

/-! ## Starting and reaching servers -/

/-- Starting a server makes room, and then fails or puts a new socket there. -/
theorem bind_cases (fs : FileSystem) (p : Path) :
    (∃ e, fs.bind p = (.error e, { fs with tree := (makeRoom fs.tree p).2 })) ∨
      ∃ t, (makeRoom fs.tree p).2.makeSocket fs.sockets p = .ok t ∧
        fs.bind p =
          (.ok (⟨fs.sockets⟩, ⟨p⟩), ⟨t, fs.sockets + 1, fs.sockets :: fs.listening⟩) := by
  rw [bind]
  generalize makeRoom fs.tree p = room
  obtain ⟨error | -, room⟩ := room
  · exact .inl ⟨error, rfl⟩
  · dsimp only
    rw [listen]
    cases hmade : room.makeSocket fs.sockets p with
    | error e => exact .inl ⟨e, rfl⟩
    | ok t => exact .inr ⟨t, rfl, rfl⟩

theorem lacks_bind {fs : FileSystem} (h : (makeRoom fs.tree p).2.Lacks k)
    (hk : k < fs.sockets ∨ (fs.bind p).2.sockets ≤ k) : (fs.bind p).2.tree.Lacks k := by
  rcases fs.bind_cases p with ⟨e, he⟩ | ⟨t, hmade, hbind⟩
  · rw [he]
    exact h
  · rw [hbind] at hk ⊢
    obtain ⟨-, -, -, m, -, hvacant, rfl⟩ := Tree.makeSocket_eq_ok hmade
    refine h.insert hvacant ?_
    dsimp only at hk
    omega

theorem stands_bind {fs : FileSystem} (h : (makeRoom fs.tree p).2.Stands k l) (hk : k < fs.sockets) :
    (fs.bind p).2.tree.Stands k l := by
  rcases fs.bind_cases p with ⟨e, he⟩ | ⟨t, hmade, hbind⟩
  · rw [he]
    exact h
  · rw [hbind]
    obtain ⟨-, -, -, m, -, hvacant, rfl⟩ := Tree.makeSocket_eq_ok hmade
    exact h.insert hvacant (Nat.ne_of_gt hk)

/-- Whether a path can be the address of a socket. -/
def Addressable (p : Path) : Prop := 0 ∉ p ∧ p.length < Tree.addressLimit

theorem connect_eq_ok_iff {fs : FileSystem} (hopen : k ∈ fs.listening) (hp : Addressable p) :
    fs.connect p = .ok ⟨k⟩ ↔ ∃ l, fs.tree.find p = .ok l ∧ fs.tree.get? l = some (.socket k) := by
  have hreach := Tree.reachSocket_eq_ok_iff (t := fs.tree) (p := p) (k := k)
  rw [and_iff_right hp.1, and_iff_right hp.2] at hreach
  rw [connect, ← hreach]
  cases fs.tree.reachSocket p with
  | error e => simp
  | ok j =>
      constructor
      · intro h
        dsimp only at h
        split at h
        · obtain rfl := Listener.mk.inj (Except.ok.inj h)
          rfl
        · cases h
      · intro h
        obtain rfl := Except.ok.inj h
        exact if_pos hopen

/-- Whoever connects at a path reaches a socket that stands exactly if the path leads to it. -/
theorem connect_of_stands {fs : FileSystem} (hopen : k ∈ fs.listening) (hp : Addressable p)
    (h : fs.tree.Stands k l) : fs.connect p = .ok ⟨k⟩ ↔ fs.tree.find p = .ok l := by
  rw [connect_eq_ok_iff hopen hp]
  constructor
  · rintro ⟨m, hm, hsocket⟩
    rwa [← h.nowhereElse m hsocket]
  · intro hl
    exact ⟨l, hl, h.here⟩

theorem connect_of_lacks {fs : FileSystem} (hopen : k ∈ fs.listening) (hp : Addressable p)
    (h : fs.tree.Lacks k) : fs.connect p ≠ .ok ⟨k⟩ := by
  rw [Ne, connect_eq_ok_iff hopen hp]
  rintro ⟨m, -, hsocket⟩
  exact h m hsocket

/-- Whether all sockets in a tree are among those that have been made. -/
def Numbered (fs : FileSystem) : Prop := ∀ k, fs.sockets ≤ k → fs.tree.Lacks k

/-- A server that has started has a socket of its own, and its path leads there. -/
theorem stands_of_bind {fs : FileSystem} (hfs : fs.Numbered) {listener : Listener} {g : SocketGuard}
    (h : (fs.bind p).1 = .ok (listener, g)) :
    Addressable p ∧ listener.socket < (fs.bind p).2.sockets ∧
      listener.socket ∈ (fs.bind p).2.listening ∧
      ∃ l, (fs.bind p).2.tree.find p = .ok l ∧ (fs.bind p).2.tree.Stands listener.socket l := by
  rcases fs.bind_cases p with ⟨e, he⟩ | ⟨t, hmade, hbind⟩
  · rw [he] at h
    cases h
  · rw [hbind] at h ⊢
    obtain ⟨rfl, -⟩ := Prod.mk.inj (Except.ok.inj h)
    obtain ⟨hnul, hlength, hask, l, hnames, hvacant, rfl⟩ := Tree.makeSocket_eq_ok hmade
    have hroom := lacks_makeRoom (hfs fs.sockets le_rfl) p
    have hstands := hroom.stands_insert hvacant hnames.enclosed
    have hfind := (hnames.of_extends (Tree.extends_insert hvacant _)).find_eq hask hstands.here
      (Tree.socket_ne_link _)
    exact ⟨⟨hnul, hlength⟩, Nat.lt_succ_self _, List.mem_cons_self, l, hfind, hstands⟩

end FileSystem

/-! ## Servers -/

/-- The servers that use a file system: the guards that have not been let go, each with the number of its
server's socket. -/
structure Servers where
  files : FileSystem := {}
  guards : List (Nat × SocketGuard) := []

/-- What servers do: they start at a path; stop listening; let their guard go; or are killed, so that nobody
listens any more and the guard is never let go. Other than when it starts, a server is told by the number of its
socket. -/
inductive ServerStep where
  | bind (p : Path)
  | dropListener (k : Nat)
  | dropGuard (k : Nat)
  | kill (k : Nat)

namespace Servers

def perform (x : Servers) : ServerStep → Servers
  | .bind p =>
    match x.files.bind p with
    | (.ok (listener, g), files) => ⟨files, (listener.socket, g) :: x.guards⟩
    | (.error _, files) => ⟨files, x.guards⟩
  | .dropListener k => ⟨x.files.unlisten ⟨k⟩, x.guards⟩
  | .dropGuard k =>
    match x.guards.lookup k with
    | some g => ⟨x.files.release g, x.guards.filter (·.1 != k)⟩
    | none => x
  | .kill k => ⟨x.files.unlisten ⟨k⟩, x.guards.filter (·.1 != k)⟩

def run (x : Servers) (steps : List ServerStep) : Servers := steps.foldl perform x

/-- Whether a step removes a socket: a server starts whose path leads to it, or a guard is let go whose path
does. -/
def Takes (x : Servers) (k : Nat) : ServerStep → Prop
  | .bind p => FileSystem.Replaces x.files.tree p k
  | .dropGuard j => ∃ g, x.guards.lookup j = some g ∧ x.files.tree.lstat g.path = .ok (.socket k)
  | .dropListener _ | .kill _ => False

instance decidableTakes (x : Servers) (k : Nat) : DecidablePred (x.Takes k)
  | .bind _ => inferInstanceAs (Decidable (_ ∧ _))
  | .dropGuard j =>
    decidable_of_iff
      ((x.guards.lookup j).any fun g => decide (x.files.tree.lstat g.path = .ok (.socket k))) (by
        simp only [Option.any_eq_true, decide_eq_true_eq]
        rfl)
  | .dropListener _ | .kill _ => inferInstanceAs (Decidable False)

/-- Whether no step of a run removes a socket. -/
def Spares (x : Servers) (k : Nat) : List ServerStep → Prop
  | [] => True
  | s :: steps => ¬x.Takes k s ∧ (x.perform s).Spares k steps

instance decidableSpares (k : Nat) : ∀ (steps : List ServerStep) (x : Servers), Decidable (x.Spares k steps)
  | [], _ => inferInstanceAs (Decidable True)
  | s :: steps, x =>
    have := decidableSpares k steps (x.perform s)
    inferInstanceAs (Decidable (_ ∧ _))

end Servers

/-- Whether a step ends the listening at a socket. -/
def ServerStep.Closes (k : Nat) : ServerStep → Prop
  | .dropListener j | .kill j => j = k
  | .bind _ | .dropGuard _ => False

namespace Servers

variable {x : Servers} {s : ServerStep} {k : Nat} {l : Location}

theorem files_perform_bind (x : Servers) (p : Path) :
    (x.perform (.bind p)).files = (x.files.bind p).2 := by
  rw [perform]
  split <;> simp [*]

theorem sockets_perform (x : Servers) (s : ServerStep) :
    x.files.sockets ≤ (x.perform s).files.sockets := by
  cases s with
  | bind p =>
      rw [files_perform_bind]
      rcases x.files.bind_cases p with ⟨e, he⟩ | ⟨t, -, hbind⟩
      · rw [he]
      · rw [hbind]
        exact Nat.le_succ _
  | dropListener j | kill j => exact le_rfl
  | dropGuard j =>
      rw [perform]
      split <;> exact le_rfl

/-- A socket that is nowhere stays so, unless the step makes it. -/
theorem lacks_perform (h : x.files.tree.Lacks k)
    (hk : k < x.files.sockets ∨ (x.perform s).files.sockets ≤ k) :
    (x.perform s).files.tree.Lacks k := by
  cases s with
  | bind p =>
      rw [files_perform_bind] at hk ⊢
      exact FileSystem.lacks_bind (FileSystem.lacks_makeRoom h p) hk
  | dropListener j | kill j => exact h
  | dropGuard j =>
      rw [perform]
      split
      · exact FileSystem.lacks_cleanUp h _
      · exact h

/-- A socket that a step does not remove stays where it is. -/
theorem stands_perform (h : x.files.tree.Stands k l) (hk : k < x.files.sockets) (hs : ¬x.Takes k s) :
    (x.perform s).files.tree.Stands k l := by
  cases s with
  | bind p =>
      rw [files_perform_bind]
      exact FileSystem.stands_bind (FileSystem.stands_makeRoom h hs) hk
  | dropListener j | kill j => exact h
  | dropGuard j =>
      rw [perform]
      split
      · next g hg => exact FileSystem.stands_cleanUp h fun hp => hs ⟨g, hg, hp⟩
      · exact h

/-- A socket that a step removes is nowhere. -/
theorem lacks_perform_of_takes (h : x.files.tree.Stands k l) (hk : k < x.files.sockets)
    (hs : x.Takes k s) : (x.perform s).files.tree.Lacks k := by
  cases s with
  | bind p =>
      rw [files_perform_bind]
      exact FileSystem.lacks_bind (FileSystem.lacks_makeRoom_of_replaces h hs) (.inl hk)
  | dropListener j | kill j => exact hs.elim
  | dropGuard j =>
      obtain ⟨g, hg, hp⟩ := hs
      rw [perform, hg]
      exact FileSystem.lacks_cleanUp_of_lstat h hp

theorem numbered_perform (h : x.files.Numbered) (s : ServerStep) : (x.perform s).files.Numbered :=
  fun k hk => lacks_perform (h k ((sockets_perform x s).trans hk)) (.inr hk)

theorem numbered_run (h : x.files.Numbered) (steps : List ServerStep) : (x.run steps).files.Numbered := by
  induction steps generalizing x with
  | nil => exact h
  | cons s steps ih => exact ih (numbered_perform h s)

theorem lacks_run (h : x.files.tree.Lacks k) (hk : k < x.files.sockets) (steps : List ServerStep) :
    (x.run steps).files.tree.Lacks k := by
  induction steps generalizing x with
  | nil => exact h
  | cons s steps ih => exact ih (lacks_perform h (.inl hk)) (hk.trans_le (sockets_perform x s))

/-- At the end of a run a socket is where it was at the beginning, unless a step has removed it. -/
theorem stands_run (h : x.files.tree.Stands k l) (hk : k < x.files.sockets) (steps : List ServerStep) :
    x.Spares k steps ∧ (x.run steps).files.tree.Stands k l ∨
      ¬x.Spares k steps ∧ (x.run steps).files.tree.Lacks k := by
  induction steps generalizing x with
  | nil => exact .inl ⟨trivial, h⟩
  | cons s steps ih =>
      have hnext := hk.trans_le (sockets_perform x s)
      by_cases hs : x.Takes k s
      · exact .inr ⟨fun hspares => hspares.1 hs, lacks_run (lacks_perform_of_takes h hk hs) hnext steps⟩
      · exact (ih (stands_perform h hk hs) hnext).imp (.imp_left (.intro hs))
          (.imp_left fun hnot hspares => hnot hspares.2)

theorem listening_perform (h : k ∈ x.files.listening) (hs : ¬s.Closes k) :
    k ∈ (x.perform s).files.listening := by
  cases s with
  | bind p =>
      rw [files_perform_bind]
      rcases x.files.bind_cases p with ⟨e, he⟩ | ⟨t, -, hbind⟩
      · rw [he]
        exact h
      · rw [hbind]
        exact List.mem_cons_of_mem _ h
  | dropListener j | kill j => exact (List.mem_erase_of_ne fun hj => hs hj.symm).mpr h
  | dropGuard j =>
      rw [perform]
      split <;> exact h

theorem listening_run (h : k ∈ x.files.listening) {steps : List ServerStep}
    (hsteps : ∀ s ∈ steps, ¬s.Closes k) : k ∈ (x.run steps).files.listening := by
  induction steps generalizing x with
  | nil => exact h
  | cons s steps ih =>
      exact ih (listening_perform h (hsteps s List.mem_cons_self))
        fun s' hs' => hsteps s' (List.mem_cons_of_mem _ hs')

end Servers

/-- Whether a path leads somewhere without a link and without a way back. -/
def Tree.Direct (t : Tree) (p : Path) : Prop :=
  Path.dotDot ∉ Path.components p ∧ ∃ l, t.advance [] (Path.steps p) = .here l

theorem Tree.find_of_direct {t t' : Tree} {p : Path} {k : Nat} {l : Location} (h : t.Direct p)
    (hl : t.find p = .ok l) (hstands : t.Stands k l) (hstands' : t'.Stands k l) : t'.find p = .ok l := by
  obtain ⟨hcomponents, m, hm⟩ := h
  rw [Tree.find] at hl ⊢
  split at hl
  · cases hl
  · next hne =>
      obtain rfl : m = l := by simpa [Tree.walk_of_here hm] using hl
      have hsteps : Path.dotDot ∉ Path.steps p := by
        rw [Path.steps]
        split
        · simpa using ⟨hcomponents, by decide⟩
        · simpa using hcomponents
      have hfile : ¬t.isDirectory m := by
        rw [Tree.isDirectory, hstands.here]
        exact Tree.not_isDirectory_socket k
      rw [if_neg hne]
      exact Tree.walk_of_here
        (Tree.advance_of_enclosed hsteps hm hfile hstands'.enclosed hstands'.here
          (Tree.socket_ne_link k)) _

/-- What becomes of the socket of a server that has started and has not stopped listening: it is where it was
made exactly if no step since then has removed it, and whoever connects at the server's path is connected to
the server exactly if, besides, the path still leads where it led. For a path without links and ways back, this
comes to the same. -/
theorem reached_iff_spared {start : Servers} (hstart : start.files.Numbered)
    (before after : List ServerStep) {p : Path} {listener : Listener} {g : SocketGuard}
    (hbind : ((start.run before).files.bind p).1 = .ok (listener, g))
    (hopen : ∀ s ∈ after, ¬s.Closes listener.socket) :
    let started := (start.run before).perform (.bind p)
    let now := started.run after
    (∃ l, started.files.tree.find p = .ok l ∧
        (now.files.tree.get? l = some (.socket listener.socket) ↔
          started.Spares listener.socket after)) ∧
      (now.files.connect p = .ok listener ↔
        started.Spares listener.socket after ∧
          now.files.tree.find p = started.files.tree.find p) ∧
      (started.files.tree.Direct p →
        (now.files.connect p = .ok listener ↔ started.Spares listener.socket after)) := by
  intro started now
  have hfiles : started.files = ((start.run before).files.bind p).2 := Servers.files_perform_bind _ p
  obtain ⟨hp, hk, hlistening, l, hfind, hstands⟩ :=
    FileSystem.stands_of_bind (Servers.numbered_run hstart before) hbind
  rw [← hfiles] at hk hlistening hfind hstands
  have hlistening : listener.socket ∈ now.files.listening := Servers.listening_run hlistening hopen
  rcases Servers.stands_run hstands hk after with ⟨hspares, hthere⟩ | ⟨hnot, hgone⟩
  · have hconnect := FileSystem.connect_of_stands hlistening hp hthere
    refine ⟨⟨l, hfind, iff_of_true hthere.here hspares⟩, ?_, fun hdirect => ?_⟩
    · rw [and_iff_right hspares, hfind]
      exact hconnect
    · exact iff_of_true (hconnect.mpr (Tree.find_of_direct hdirect hfind hstands hthere)) hspares
  · have hconnect := FileSystem.connect_of_lacks hlistening hp hgone
    exact ⟨⟨l, hfind, iff_of_false (hgone l) hnot⟩, iff_of_false hconnect fun h => hnot h.1,
      fun _ => iff_of_false hconnect hnot⟩

theorem numbered_empty : ({} : FileSystem).Numbered := by
  intro k _ l
  cases l with
  | nil => nofun
  | cons n l => nofun

/-- A server that replaces what a killed one has left, and then another one that starts and stops in the same
directory. -/
theorem reached_beside_another :
    let p := Path.ofText "d/s"
    let started := (({} : Servers).run [.bind p, .kill 0]).perform (.bind p)
    let after := [ServerStep.bind (Path.ofText "d/t"), .dropListener 2, .dropGuard 2]
    started.Spares 1 after ∧ (started.run after).files.connect p = .ok ⟨1⟩ := by
  intro p started after
  have hspares : started.Spares 1 after := by decide
  have hopen : ∀ s ∈ after, ¬s.Closes 1 := by simp [after, ServerStep.Closes]
  have hdirect : started.files.tree.Direct p := ⟨by decide, _, rfl⟩
  refine ⟨hspares, ?_⟩
  exact ((reached_iff_spared numbered_empty [.bind p, .kill 0] after rfl hopen).2.2 hdirect).mpr hspares

/-- A server that goes on listening can lose its socket in two ways: to the guard of a server that has used the
path before, and to a server that starts at the path. -/
theorem lost_while_listening :
    let p := Path.ofText "d/s"
    let idle : Servers := {}
    (((idle.run [.bind p, .dropListener 0]).files.bind p).1 = .ok (⟨1⟩, ⟨p⟩) ∧
        (idle.run [.bind p, .dropListener 0, .bind p, .dropGuard 0]).files.connect p =
          .error (.system .notFound)) ∧
      (idle.files.bind p).1 = .ok (⟨0⟩, ⟨p⟩) ∧
        (idle.run [.bind p, .bind p]).files.connect p = .ok ⟨1⟩ :=
  ⟨⟨rfl, rfl⟩, rfl, rfl⟩

end TrafficShaping
