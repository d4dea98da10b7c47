import TrafficShaping.Proofs.PresetCommands
import TrafficShaping.Proofs.SocketFootprint
import TrafficShaping.Server.Serve

/-!
# A server from its start to its end

A server that does not start answers nobody. One that starts answers everybody, once, and when it is shut down
nothing of it is left in the file system but directories. Neither has anything to do with the other: no request
reaches the tree, and no answer depends on it.

What requests make of the cache and of the host is read off one of them. Only a control changes the cache. A
report may move the host on, by queries and by looking namespaces up. So whatever a report and a control keep is
kept by all requests there are, at any path and by any method; the induction over a run has nothing to add.
-/

namespace TrafficShaping

variable {σ : Type}

/-! ## One request -/

/-- What a single query keeps of the world is kept by a query for each of some containers. -/
theorem Informant.samples_keeps (ask : Informant σ) {P : σ → Prop} (hask : ∀ c w, P w → P (ask c w).2)
    (containers : List Container) {w : σ} (h : P w) : P (ask.samples containers w).2 := by
  induction containers generalizing w with
  | nil => exact h
  | cons c containers ih =>
      have hrest := ih (hask c w h)
      rw [samples]
      dsimp only
      split <;> exact hrest

namespace Service

variable {s : Service σ} {store : Store} {now : Instant}

/-- Whether a request has left what there was, or what a report leaves, or what a control leaves. -/
def Effect (s : Service σ) (store : Store) (now : Instant) (r : HttpRequest) (c : Cache) (w : σ)
    (left : Cache × σ) : Prop :=
  left = (c, w) ∨ left = (c, (s.report store now c w).2) ∨ left = (s.control store r.body c w).2

theorem answerAt_effect (s : Service σ) (store : Store) (now : Instant) (path : String) (r : HttpRequest)
    (c : Cache) (w : σ) : s.Effect store now r c w (s.answerAt store now path r c w).2 := by
  rw [answerAt]
  split
  · split
    · exact .inr (.inl rfl)
    · split
      · exact .inr (.inl rfl)
      · exact .inl rfl
  · split
    · split
      · split
        · exact .inl rfl
        · exact .inr (.inr rfl)
      · exact .inl rfl
    · exact .inl rfl

theorem answer_effect (s : Service σ) (store : Store) (now : Instant) (r : HttpRequest) (c : Cache) (w : σ) :
    s.Effect store now r c w (s.answer store now r c w).2 := by
  rw [answer]
  split
  · split <;> exact .inl rfl
  · exact .inl rfl
  · split
    · exact s.answerAt_effect store now _ r c w
    · exact .inl rfl

theorem answerArriving_effect (s : Service σ) (store : Store) (now : Instant) (r : HttpRequest) (c : Cache)
    (w : σ) : s.Effect store now r c w (s.answerArriving store now r c w).2 := by
  rw [answerArriving]
  split
  · exact s.answer_effect store now r c w
  · exact .inl rfl

/-! ## All of them -/

theorem length_answerAll (s : Service σ) (store : Store) (now : Instant) (rs : List HttpRequest) (c : Cache)
    (w : σ) : (s.answerAll store now rs c w).1.length = rs.length := by
  induction rs generalizing c w with
  | nil => rfl
  | cons r rs ih => exact congrArg (· + 1) (ih _ _)

/-- What a report and a control keep is kept by requests of any kind. -/
theorem answerAll_keeps {P : Cache → σ → Prop} (hreport : ∀ c w, P c w → P c (s.report store now c w).2)
    (hcontrol : ∀ body c w, P c w → P (s.control store body c w).2.1 (s.control store body c w).2.2)
    (rs : List HttpRequest) {c : Cache} {w : σ} (h : P c w) :
    P (s.answerAll store now rs c w).2.1 (s.answerAll store now rs c w).2.2 := by
  induction rs generalizing c w with
  | nil => exact h
  | cons r rs ih =>
      refine ih (c := (s.answerArriving store now r c w).2.1) (w := (s.answerArriving store now r c w).2.2) ?_
      rcases s.answerArriving_effect store now r c w with heq | heq | heq
      · rw [heq]
        exact h
      · rw [heq]
        exact hreport c w h
      · rw [heq]
        exact hcontrol r.body c w h

/-! ## Commands -/

theorem report_recorded (s : Service σ) (store : Store) (now : Instant) (c : Cache) (w : σ × List Run) :
    (s.recorded.report store now c w).2.2 = w.2 := by
  exact s.recorded.metrics.samples_keeps (P := fun w' => w'.2 = w.2) (fun _ _ h => h) _ rfl

/-- Whatever requests come, the host runs no text of them and the cache holds none. -/
theorem onlyPresets_answerAll (rs : List HttpRequest) {x : Situation (σ × List Run)} (h : s.OnlyPresets x) :
    s.OnlyPresets { x with
      cache := (s.recorded.answerAll store now rs x.cache x.host).2.1
      host := (s.recorded.answerAll store now rs x.cache x.host).2.2 } := by
  refine s.recorded.answerAll_keeps (P := fun c w => s.OnlyPresets { x with cache := c, host := w }) ?_ ?_ rs h
  · intro c w hw
    refine ⟨fun run hrun => hw.runs run ?_, hw.cache⟩
    exact s.report_recorded store now c w ▸ hrun
  · intro body c w hw
    obtain ⟨w, runs⟩ := w
    rw [control_recorded]
    refine ⟨fun run hrun => ?_, s.isPreset_control store body hw.cache w⟩
    rcases List.mem_append.mp hrun with hrun | hrun
    · exact hw.runs run hrun
    · exact s.isPreset_controlRuns store body hw.cache w run hrun

end Service

/-! ## The file system around a run -/

namespace FileSystem

variable {fs : FileSystem} {p : Path}

/-- What a server has made of a tree that has started and has been shut down, with its socket at a location. -/
structure Left (t t' : Tree) (p : Path) (l : Location) : Prop where
  before : ∀ e, t.get? l = some e → ∃ k, e = .socket k
  gone : t'.get? l = none
  notFound : ∀ e, t'.lstat p ≠ .ok e
  elsewhere : ∀ m, m ≠ l → t'.get? m = t.get? m ∨
    t.get? m = none ∧ t'.get? m = some (.directory socketDirectoryMode) ∨ m = l.tail ∧ t'.get? m = none

theorem Left.of_released {t t' t'' : Tree} {k : Nat} {l : Location} (hstarted : Started t t' p k l)
    (hreleased : Released t' t'' p l) : Left t t'' p l where
  before := hstarted.before
  gone := hreleased.gone
  notFound := hreleased.notFound
  elsewhere m hm := by
    rcases hreleased.elsewhere m hm with hkept | ⟨hparent, hgone⟩
    · rw [hkept]
      rcases hstarted.elsewhere m hm with hsame | ⟨hnone, hmade, -⟩
      · exact .inl hsame
      · exact .inr (.inl ⟨hnone, hmade⟩)
    · exact .inr (.inr ⟨(hreleased.parent m hparent).1, hgone⟩)

end FileSystem

namespace Service

open FileSystem

variable {s : Service σ} {store : Store} {now : Instant} {p : Path} {rs : List HttpRequest}
  {fs : FileSystem} {c : Cache} {w : σ}

/-- A server that does not start answers nobody and changes nothing but the room for its socket. -/
theorem serveSocket_of_error {e : FileError} (h : (s.serveSocket store now p rs fs c w).1 = .error e) :
    (s.serveSocket store now p rs fs c w).2.2 = (c, w) ∧
      (s.serveSocket store now p rs fs c w).2.1.listening = fs.listening ∧
      ∀ m, (s.serveSocket store now p rs fs c w).2.1.tree.get? m = fs.tree.get? m ∨
        MadeAround fs.tree (s.serveSocket store now p rs fs c w).2.1.tree p m ∨
        Cleared fs.tree (s.serveSocket store now p rs fs c w).2.1.tree p m := by
  rcases fs.bind_cases p with ⟨e', he'⟩ | ⟨t, -, hbind⟩
  · rw [serveSocket, he']
    exact ⟨rfl, rfl, makeRoom_footprint fs.tree p⟩
  · rw [serveSocket, hbind] at h
    cases h

/-- A server that starts answers all requests in order, each on what the ones before have left. When it is shut
down, nobody listens who has not before, nothing is at its path, and nothing else has become of the tree than
that directories around its socket have been made, or the one around it removed. -/
theorem serveSocket_of_ok {answers : List HttpResponse}
    (h : (s.serveSocket store now p rs fs c w).1 = .ok answers) :
    (answers, (s.serveSocket store now p rs fs c w).2.2) = s.answerAll store now rs c w ∧
      (s.serveSocket store now p rs fs c w).2.1.listening = fs.listening ∧
      ∃ l, Left fs.tree (s.serveSocket store now p rs fs c w).2.1.tree p l := by
  rcases fs.bind_cases p with ⟨e, he⟩ | ⟨t, -, hbind⟩
  · rw [serveSocket, he] at h
    cases h
  · have hok : (fs.bind p).1 = .ok (⟨fs.sockets⟩, ⟨p⟩) := by rw [hbind]
    obtain ⟨l, hstarted⟩ := started_of_bind hok
    have hreleased := released_cleanUp hstarted.names hstarted.here hstarted.found
    have htree : (fs.bind p).2.tree = t := by rw [hbind]
    rw [htree] at hstarted hreleased
    rw [serveSocket, hbind] at h ⊢
    obtain rfl := Except.ok.inj h
    exact ⟨rfl, List.erase_cons_head .., l, .of_released hstarted hreleased⟩

end Service

end TrafficShaping
