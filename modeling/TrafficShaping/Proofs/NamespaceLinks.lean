import TrafficShaping.Procfs
import TrafficShaping.Proofs.Affix
import TrafficShaping.Proofs.Utf8Units

/-!
# Namespaces and the links that name them

The identity of a namespace is read off a link, by turning the target into text and taking the brackets off. What
the brackets and the word before them are made of is ASCII, so they can be taken off the bytes just as well: a
process resolves exactly if the bytes of its link's target have them, with something in between.

The other step loses something. Bytes that are no text all become the same character, so two links can have
targets that differ and one identity between them. Nothing else makes identities meet: those of two processes are
equal exactly if the targets are, once what is no text in them has been replaced.
-/

namespace TrafficShaping

open Text.Utf8 (decodeLossy decodeLossy_encode decodeLossy_eq_append_iff decodeLossy_eq_concat_iff
  decodeLossy_eq_empty_iff)

/-! ## Targets -/

/-- The target of a link that names a namespace, from what stands between the brackets. -/
def Path.ofInode (inode : List UInt8) : Path := Path.ofText "net:[" ++ inode ++ Path.ofText "]"

theorem Path.text_eq_iff {p : Path} {inode : String} :
    p.text = "net:[" ++ (inode ++ "]") ↔ ∃ bs, p = ofInode bs ∧ decodeLossy bs = inode := by
  rw [Path.text, decodeLossy_eq_append_iff (by simp)]
  constructor
  · rintro ⟨more, rfl, hmore⟩
    obtain ⟨bs, rfl, hbs⟩ := (decodeLossy_eq_concat_iff (c := ']') (by decide)).mp hmore
    exact ⟨bs, (List.append_assoc _ _ _).symm, hbs⟩
  · rintro ⟨bs, rfl, hbs⟩
    exact ⟨bs ++ Path.ofText "]", List.append_assoc _ _ _,
      (decodeLossy_eq_concat_iff (c := ']') (by decide)).mpr ⟨bs, rfl, hbs⟩⟩

theorem Identity.of?_eq_some_iff {text : String} {n : Identity} : of? text = some n ↔ text = n.text := by
  rw [of?]
  split
  · rw [Option.some.injEq, ← text_inj]
  · next h =>
      rw [not_not] at h
      constructor
      · intro hnone
        cases hnone
      · intro heq
        exact absurd (heq.symm.trans h) n.nonempty

theorem Identity.ofLinkTarget?_eq_some_iff {target : String} {n : Identity} :
    ofLinkTarget? target = some n ↔ target = "net:[" ++ (n.text ++ "]") := by
  simp only [ofLinkTarget?, Option.bind_eq_some_iff, Text.stripStart?_eq_some_iff,
    Text.stripEnd?_eq_some_iff, of?_eq_some_iff]
  constructor
  · rintro ⟨inode, ⟨rest, htarget, hrest⟩, hinode⟩
    rw [htarget, hrest, hinode]
  · intro h
    exact ⟨n.text, ⟨_, h, rfl⟩, rfl⟩

namespace Procfs

variable {root : String} {t : Tree} {p q : Pid} {n m : Identity}

/-- Whether the link that procfs has for the namespace of a process can be read and has this target. -/
def Links (root : String) (t : Tree) (pid : Pid) (target : Path) : Prop :=
  t.lstat (Path.ofText (namespacePath root pid)) = .ok (.link target)

theorem readLink_eq_ok_iff {path target : Path} :
    t.readLink path = .ok target ↔ t.lstat path = .ok (.link target) := by
  rw [Tree.readLink]
  cases t.lstat path with
  | error e => exact ⟨nofun, nofun⟩
  | ok entry =>
      cases entry with
      | link found => simp [bind, Except.bind, pure, Except.pure]
      | directory mode => exact ⟨nofun, nofun⟩
      | file => exact ⟨nofun, nofun⟩
      | socket number => exact ⟨nofun, nofun⟩

theorem Links.unique {a b : Path} (ha : Links root t p a) (hb : Links root t p b) : a = b := by
  rw [Links, ha] at hb
  exact Entry.link.inj (Except.ok.inj hb)

theorem resolve_eq_ok_iff : resolve root p t = .ok n ↔
    ∃ inode, Links root t p (.ofInode inode) ∧ decodeLossy inode = n.text := by
  have htarget (target : Path) : Identity.ofLinkTarget? target.text = some n ↔
      ∃ inode, target = .ofInode inode ∧ decodeLossy inode = n.text :=
    Identity.ofLinkTarget?_eq_some_iff.trans Path.text_eq_iff
  constructor
  · intro h
    unfold resolve at h
    split at h
    · cases h
    · next target hread =>
        split at h
        · next hidentity =>
            obtain rfl := Except.ok.inj h
            obtain ⟨inode, rfl, hinode⟩ := (htarget target).mp hidentity
            exact ⟨inode, readLink_eq_ok_iff.mp hread, hinode⟩
        · cases h
  · rintro ⟨inode, hlink, hinode⟩
    have hidentity := (htarget _).mpr ⟨inode, rfl, hinode⟩
    unfold resolve
    rw [readLink_eq_ok_iff.mpr hlink]
    simp only [hidentity]

theorem resolve_eq_error {e : ShapingError} (h : resolve root p t = .error e) :
    ∃ cause, e = .unresolvable p cause := by
  unfold resolve at h
  split at h
  · exact ⟨_, (Except.error.inj h).symm⟩
  · split at h
    · cases h
    · exact ⟨_, (Except.error.inj h).symm⟩

/-- A process resolves exactly if the bytes between the brackets of its link are there and are not none. -/
theorem exists_resolve_eq_ok_iff : (∃ n, resolve root p t = .ok n) ↔
    ∃ inode, inode ≠ [] ∧ Links root t p (.ofInode inode) := by
  constructor
  · rintro ⟨n, h⟩
    obtain ⟨inode, hlink, hinode⟩ := resolve_eq_ok_iff.mp h
    refine ⟨inode, fun hnil => n.nonempty ?_, hlink⟩
    rw [← hinode, decodeLossy_eq_empty_iff.mpr hnil]
  · rintro ⟨inode, hne, hlink⟩
    have htext : decodeLossy inode ≠ "" := fun h => hne (decodeLossy_eq_empty_iff.mp h)
    exact ⟨⟨_, htext⟩, resolve_eq_ok_iff.mpr ⟨inode, hlink, rfl⟩⟩

/-- Identities are equal where the targets are read as equal texts. -/
theorem identity_eq_iff {a b : Path} (hn : resolve root p t = .ok n) (hm : resolve root q t = .ok m)
    (ha : Links root t p a) (hb : Links root t q b) : n = m ↔ a.text = b.text := by
  obtain ⟨inode, hlink, hinode⟩ := resolve_eq_ok_iff.mp hn
  obtain ⟨inode', hlink', hinode'⟩ := resolve_eq_ok_iff.mp hm
  obtain rfl := ha.unique hlink
  obtain rfl := hb.unique hlink'
  rw [Path.text_eq_iff.mpr ⟨inode, rfl, hinode⟩, Path.text_eq_iff.mpr ⟨inode', rfl, hinode'⟩,
    String.append_right_inj, String.append_left_inj, Identity.text_inj]

/-- A process resolves exactly if its link is there, with a word, two brackets and something between them for its
target, and the error names the process otherwise. Two processes have one identity exactly if the targets of their
links are read as one text, with U+FFFD for what is not UTF-8 in them. So targets that are UTF-8 have one identity
only if they are equal. -/
theorem same_identity_iff (root : String) (t : Tree) (p q : Pid) :
    ((∃ n, resolve root p t = .ok n) ↔
        ∃ inode, inode ≠ [] ∧ Links root t p (Path.ofText "net:[" ++ inode ++ Path.ofText "]")) ∧
      (∀ e, resolve root p t = .error e → ∃ cause, e = .unresolvable p cause) ∧
      ∀ n m a b, resolve root p t = .ok n → resolve root q t = .ok m → Links root t p a →
        Links root t q b →
          (n = m ↔ decodeLossy a = decodeLossy b) ∧
          ∀ s u : String, a = Path.ofText s → b = Path.ofText u → (n = m ↔ a = b) := by
  refine ⟨exists_resolve_eq_ok_iff, fun e => resolve_eq_error, fun n m a b hn hm ha hb => ?_⟩
  have hiff := identity_eq_iff hn hm ha hb
  refine ⟨hiff, fun s u hs hu => ?_⟩
  rw [hiff, hs, hu, Path.text, Path.text, Path.ofText, Path.ofText, decodeLossy_encode, decodeLossy_encode]
  constructor
  · rintro rfl
    rfl
  · intro h
    rw [← decodeLossy_encode s, h, decodeLossy_encode]

/-- A procfs of two processes. -/
def ofTwoLinks (first second : Path) : Tree :=
  let process (pid : String) (target : Path) : List (Location × Entry) :=
    let directory : Location := [Path.ofText pid, Path.ofText "proc"]
    [(directory, .directory 0o555), (Path.ofText "ns" :: directory, .directory 0o511),
      (Path.ofText "net" :: Path.ofText "ns" :: directory, .link target)]
  ⟨([Path.ofText "proc"], .directory 0o555) :: process "1" first ++ process "2" second⟩

/-- Two links that differ, one with U+FFFD between its brackets and one with a byte that is no text. -/
theorem distinct_links_one_identity :
    let first := Path.ofText "net:[\ufffd]"
    let second := Path.ofText "net:[" ++ [0xff] ++ Path.ofText "]"
    let t := ofTwoLinks first second
    first ≠ second ∧ Links procRoot t 1 first ∧ Links procRoot t 2 second ∧
      ∃ n, resolve procRoot 1 t = .ok n ∧ resolve procRoot 2 t = .ok n := by
  intro first second t
  have hfirst : Links procRoot t 1 first := by
    unfold Links
    decide +kernel
  have hsecond : Links procRoot t 2 second := by
    unfold Links
    decide +kernel
  exact ⟨by decide +kernel, hfirst, hsecond, ⟨"\ufffd", by decide⟩, by decide +kernel, by decide +kernel⟩

end Procfs

end TrafficShaping
