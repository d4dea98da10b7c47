import TrafficShaping.Metrics.Influx
import TrafficShaping.Proofs.CacheHistory
import TrafficShaping.Proofs.Enrichment
import TrafficShaping.Proofs.ParamText
import TrafficShaping.Proofs.ReportContents

/-!
# Where parameters come from

Nothing in the type of parameters keeps a blank value or the hyphen from being set. They are kept out because
parameters are read from texts, and all that is done with them afterwards is to hand them on: to a cache by
mutations, to a sample from the cells of a response, and from both to a report. So what is found in any of
these places is normal. For a cache this is an invariant of the calls on it; a sample is made in one go.

Nothing else about the place matters. A normal parameter is known by its text wherever it was found, and a
report, which holds the texts alone, shows the hyphen just where a parameter is unset.
-/

namespace TrafficShaping

/-! ## Caches -/

/-- Whether a call applies what some text means, if it applies anything. -/
def CacheCall.OfText : CacheCall → Prop
  | .apply _ m => ∃ d value, m = .ofText d value
  | .clear _ => True

theorem Cache.IsNormal.perform {c : Cache} (h : c.IsNormal) {k : CacheCall} (hk : k.OfText) :
    (k.perform c).2.IsNormal := by
  cases k with
  | apply n m =>
      obtain ⟨d, value, rfl⟩ := hk
      exact h.apply n (.ofText d value) (Mutation.isNormal_ofText d value)
  | clear n => exact h.clear n

theorem CacheCall.isNormal_after {calls : List CacheCall} (h : ∀ k ∈ calls, k.OfText) :
    (after calls).IsNormal := by
  induction calls using List.reverseRecOn with
  | nil => exact Cache.isNormal_empty
  | append_singleton calls k ih =>
      rw [List.forall_mem_append, List.forall_mem_singleton] at h
      rw [after_append]
      exact (ih h.1).perform h.2

/-! ## Samples -/

/-- Whether every parameter of a sample is normal. -/
structure Sample.IsNormal (s : Sample) : Prop where
  label : s.label.IsNormal
  latency : s.latency.IsNormal
  packetLoss : s.packetLoss.IsNormal

theorem Sample.isNormal_unset : Sample.IsNormal {} :=
  ⟨Param.isNormal_unset, Param.isNormal_unset, Param.isNormal_unset⟩

theorem Sample.IsNormal.shape {s : Sample} (h : s.IsNormal) (d : Dimension) :
    ((Report.sampledShape s).get d).IsNormal := by
  cases d with
  | latency => exact h.latency
  | packetLoss => exact h.packetLoss

namespace Metrics

theorem Cell.isNormal_param (c : Cell) : c.param.IsNormal := by
  cases c with
  | text s => exact Param.isNormal_ofText s
  | number n => exact Param.isNormal_ofText (numberText n)
  | other => exact Param.isNormal_unset

theorem isNormal_paramOf (series : Option Series) (column : String) : (paramOf series column).IsNormal := by
  rw [paramOf]
  cases series.bind (·.first? column) with
  | none => exact Param.isNormal_unset
  | some c => exact c.isNormal_param

variable {sample : Sample}

theorem Response.isNormal_sample {r : Response} {latency packetLoss : String}
    (h : r.sample latency packetLoss = .ok sample) : sample.IsNormal := by
  rw [Response.sample] at h
  split at h
  · cases h
  · cases h
  · split at h
    · cases h
    · obtain rfl := Except.ok.inj h
      exact ⟨isNormal_paramOf _ _, isNormal_paramOf _ _, isNormal_paramOf _ _⟩

theorem InfluxOptions.isNormal_sample {o : InfluxOptions} {r : Reply} (h : o.sample r = .ok sample) :
    sample.IsNormal := by
  rw [InfluxOptions.sample] at h
  split at h
  · cases h
  · split at h
    · cases h
    · exact Response.isNormal_sample h

end Metrics

namespace MetricsSource

variable {source : MetricsSource} {sample : Sample}

theorem sample?_eq_some_iff {c : Container} :
    source.sample? c = some sample ↔ source c = some (.ok sample) := by
  rw [sample?]
  rcases source c with _ | e | s <;> simp [Except.toOption]

/-- Whether a source gives no answer in time, or the one that a database or the source that knows nothing
gives, for every container. -/
def OfDatabases (source : MetricsSource) : Prop :=
  ∀ c, source c = none ∨ source c = disabled c ∨
    ∃ (o : Metrics.InfluxOptions) (send : Metrics.Query → Option Reply), source c = o.source send c

theorem OfDatabases.isNormal (h : source.OfDatabases) {c : Container}
    (hsample : source.sample? c = some sample) : sample.IsNormal := by
  rw [sample?_eq_some_iff] at hsample
  rcases h c with hnone | hdisabled | ⟨o, send, hdatabase⟩
  · rw [hnone] at hsample
    cases hsample
  · rw [hdisabled] at hsample
    cases hsample
    exact Sample.isNormal_unset
  · rw [hdatabase, Metrics.InfluxOptions.source] at hsample
    have hreply := Option.some.inj hsample
    split at hreply
    · cases hreply
    · exact Metrics.InfluxOptions.isNormal_sample hreply

end MetricsSource

/-! ## Reports -/

namespace Report.Sources

/-- Whether every parameter that a report is assembled from is normal. -/
structure IsNormal (src : Sources) : Prop where
  applied : ∀ pid shape, src.applied? pid = some shape → ∀ d, (shape.get d).IsNormal
  sampled : ∀ id sample, src.samples.get? id = some sample → sample.IsNormal

variable {src : Sources}

theorem IsNormal.sample (h : src.IsNormal) (id : String) : ((src.samples.get? id).getD {}).IsNormal := by
  cases hsample : src.samples.get? id with
  | none => exact Sample.isNormal_unset
  | some sample => exact h.sampled id sample hsample

theorem IsNormal.shape (h : src.IsNormal) (c : Container) (d : Dimension) :
    ((src.shape c).get d).IsNormal := by
  rw [shape_eq_getD]
  split
  · cases happlied : src.applied? c.pid with
    | none => exact (h.sample c.id).shape d
    | some shape => exact h.applied c.pid shape happlied d
  · exact Sample.isNormal_unset.shape d

theorem IsNormal.peer (h : src.IsNormal) (c : Container) : (src.peer c).IsNormal := by
  rw [peer_eq_getD]
  split
  · exact (h.sample c.id).label
  · exact Param.isNormal_unset

/-- The hyphen is shown for the dimensions that are unset, and for nothing else. -/
theorem IsNormal.value_eq_unsetText_iff (h : src.IsNormal) {c : Container} {key : String} {entry : Entry}
    (hentry : (src.node c).latest.get? key = some entry) :
    entry.value = Param.unsetText ↔ ∃ d, key = dimensionKey d ∧ (src.shape c).get d = .unset := by
  rcases get?_latest_eq_some_iff.mp hentry with ⟨d, rfl, rfl⟩ | ⟨rfl, hset, rfl⟩
  · rw [(h.shape c d).text_eq_unsetText_iff]
    constructor
    · intro hunset
      exact ⟨d, rfl, hunset⟩
    · rintro ⟨d', hkey, hunset⟩
      obtain rfl := dimensionKey_inj.mp hkey
      exact hunset
  · refine iff_of_false ?_ ?_
    · rw [(h.peer c).text_eq_unsetText_iff]
      intro hunset
      rw [hunset] at hset
      cases hset
    · rintro ⟨d, hkey, -⟩
      exact dimensionKey_ne_peerKey d hkey.symm

end Report.Sources

theorem Shaper.isNormal_sources {σ : Type} (s : Shaper σ) {source : MetricsSource}
    (hsource : source.OfDatabases) {c : Cache} (hc : c.IsNormal) (containers : List Container)
    (now : Instant) (w : σ) :
    (s.sources (source.enrich containers) now c w).IsNormal where
  applied := by
    intro pid shape happlied d
    obtain ⟨n, -, hshape⟩ := Option.bind_eq_some_iff.mp happlied
    exact hc.entry hshape d
  sampled := by
    intro id sample hsample
    obtain ⟨x, hx⟩ := MetricsSource.exists_of_get?_enrich hsample
    exact hsource.isNormal hx

/-! ## All of them -/

/-- The parameters that there are: what a text means, what is found in a cache after any calls that apply what
texts mean, and what is found in a sample that was read from a response. -/
inductive Param.Arises : Param → Prop where
  | text (s : String) : Arises (.ofText s)
  | cache {calls : List CacheCall} (hcalls : ∀ k ∈ calls, k.OfText) {n : Identity} {shape : Shape}
      (found : (CacheCall.after calls).get? n = some shape) (d : Dimension) : Arises (shape.get d)
  | sample {r : Metrics.Response} {latency packetLoss : String} {sample : Sample}
      (read : r.sample latency packetLoss = .ok sample) {p : Param}
      (hp : p = sample.label ∨ p = sample.latency ∨ p = sample.packetLoss) : Arises p

theorem Param.Arises.isNormal {p : Param} (h : p.Arises) : p.IsNormal := by
  cases h with
  | text s => exact isNormal_ofText s
  | cache hcalls found d => exact (CacheCall.isNormal_after hcalls).entry found d
  | sample read hp =>
      have hsample := Metrics.Response.isNormal_sample read
      rcases hp with rfl | rfl | rfl
      · exact hsample.label
      · exact hsample.latency
      · exact hsample.packetLoss

theorem Param.arises_iff {p : Param} : p.Arises ↔ p.IsNormal := by
  constructor
  · exact Arises.isNormal
  · intro h
    rw [← h]
    exact .text p.text

/-- How parameters and texts go together. A text means a value exactly if the value is what is left of the text
between blanks, is not empty and is not the hyphen; it means unset exactly if nothing or the hyphen is left; and
a text that is as long as what is left of it can be kept as it is. A parameter that is read from a text, found in
a cache after any calls that apply what texts mean or clear, or found in a sample that was read from a response
is unset or such a value. It is what its own text means, and no other of these parameters has that text, so the
hyphen is the text of the unset parameter alone. In a report that is made of such a cache and such samples, a
value is the hyphen exactly if it is that of a dimension which is unset. -/
theorem param_known_by_text :
    (∀ s v, Param.ofText s = .set v ↔ Text.IsTrimOf v s ∧ v ≠ "" ∧ v ≠ Param.unsetText) ∧
    (∀ s, Param.ofText s = .unset ↔ Text.IsTrimOf "" s ∨ Text.IsTrimOf Param.unsetText s) ∧
    (∀ s, Param.ofText s = if Text.trim s = "" ∨ Text.trim s = Param.unsetText then .unset
      else if (Text.trim s).utf8ByteSize = s.utf8ByteSize then .set s else .set (Text.trim s)) ∧
    (∀ p, Param.Arises p ↔
      p = .unset ∨ ∃ v, p = .set v ∧ Text.Trimmed v.toList ∧ v ≠ "" ∧ v ≠ Param.unsetText) ∧
    (∀ p, Param.Arises p → Param.ofText p.text = p ∧ (p.text = Param.unsetText ↔ p = .unset)) ∧
    (∀ p q, Param.Arises p → Param.Arises q → (p = q ↔ p.text = q.text)) ∧
    ∀ (calls : List CacheCall) (source : MetricsSource), (∀ k ∈ calls, k.OfText) → source.OfDatabases →
      ∀ {σ : Type} (s : Shaper σ) (unreadable : List UInt8 → String) (store : Store) (now : Instant) (w : σ)
        (n : String) (node : Report.Node),
        let c := CacheCall.after calls
        (Service.report ⟨s, source.informant, unreadable⟩ store now c w).1.container.nodes.get? n =
            some node →
        ∃ x ∈ store.snapshot, n = NodeId.ofContainer x.id ∧
          ∀ key entry, node.latest.get? key = some entry → (entry.value = Param.unsetText ↔
            ∃ d, key = Report.dimensionKey d ∧
              ((s.sources (source.enrich store.running) now c w).shape x).get d = .unset) := by
  refine ⟨?_, ?_, Param.ofText_eq_of_size, ?_, ?_, ?_, ?_⟩
  · intro s v
    rw [Param.ofText_eq_set_iff, Text.trim_eq_iff]
  · intro s
    rw [Param.ofText_eq_unset_iff, Text.trim_eq_iff, Text.trim_eq_iff]
  · intro p
    rw [Param.arises_iff, Param.isNormal_iff]
  · intro p hp
    exact ⟨hp.isNormal, hp.isNormal.text_eq_unsetText_iff⟩
  · intro p q hp hq
    exact hp.isNormal.eq_iff_text_eq hq.isNormal
  · intro calls source hcalls hsource σ s unreadable store now w n node c hnode
    have hnormal := s.isNormal_sources hsource (CacheCall.isNormal_after hcalls) store.running now w
    rw [Service.report_informant] at hnode
    obtain ⟨x, hx, -, rfl, rfl⟩ := Report.Sources.exists_of_get?_nodes hnode
    exact ⟨x, hx, rfl, fun key entry hentry => hnormal.value_eq_unsetText_iff hentry⟩

/-- A value from a cache and one from a response, each with other blanks around it, show alike and so are the
same; and a report on the namespace in which a hyphen was applied shows that nothing is. -/
theorem param_known_by_text_of_padded :
    let n : Identity := ⟨"4026531840", by decide⟩
    let calls : List CacheCall := [.apply n (.latency "\u3000500ms\t"), .apply n (.packetLoss " - ")]
    let series : Metrics.Series := ⟨"bytes", ["value"], [[.text "500ms\u00a0"]]⟩
    let response : Metrics.Response := { results := [{ series := [series] }] }
    let database : Metrics.InfluxOptions := { url := "http://localhost:8086" }
    let source : MetricsSource := fun c => if c.id = "def" then none else database.source (fun _ => none) c
    let s : Shaper Unit := { host := { resolve := fun _ w => (.ok n, w), run := fun _ _ w => (.ok (), w) } }
    let service : Service Unit := ⟨s, source.informant, fun _ => "expected value at line 1 column 1"⟩
    let store : Store := ({} : Store).upsert { id := "abc", pid := 7, state := .running }
    let now : Instant := ⟨⟨1970, 1, 1, by decide⟩, ⟨0, 0, 0, 0, by decide⟩⟩
    (∀ k ∈ calls, k.OfText) ∧ source.OfDatabases ∧
      (∃ shape sample, (CacheCall.after calls).get? n = some shape ∧
        response.sample "bytes" "packets" = .ok sample ∧ shape.latency = sample.latency) ∧
      ∃ node entry,
        (service.report store now (CacheCall.after calls) ()).1.container.nodes.get?
          (NodeId.ofContainer "abc") = some node ∧
        node.latest.get? (Report.dimensionKey .packetLoss) = some entry ∧ entry.value = Param.unsetText := by
  intro n calls series response database source s service store now
  obtain ⟨-, -, -, -, -, hsame, hshown⟩ := param_known_by_text
  have hcalls : ∀ k ∈ calls, k.OfText :=
    List.forall_mem_cons.mpr ⟨⟨.latency, _, rfl⟩, List.forall_mem_singleton.mpr ⟨.packetLoss, _, rfl⟩⟩
  have hsource : source.OfDatabases := by
    intro c
    by_cases hid : c.id = "def"
    · exact .inl (if_pos hid)
    · exact .inr (.inr ⟨database, fun _ => none, if_neg hid⟩)
  refine ⟨hcalls, hsource, ?_, ?_⟩
  · have hfound : (CacheCall.after calls).get? n = some ⟨.set "500ms", .unset⟩ := by decide
    have hread : response.sample "bytes" "packets" = .ok { latency := .set "500ms" } := by decide
    have hsampled := Param.Arises.sample hread (.inr (.inl rfl))
    exact ⟨_, _, hfound, hread, (hsame _ _ (.cache hcalls hfound .latency) hsampled).mpr rfl⟩
  · let abc : Container := { id := "abc", pid := 7, state := .running }
    let src := s.sources (source.enrich store.running) now (CacheCall.after calls) ()
    have hnode : (service.report store now (CacheCall.after calls) ()).1.container.nodes.get?
        (NodeId.ofContainer "abc") = some (src.node abc) := by decide
    have hentry := src.get?_latest abc .packetLoss
    obtain ⟨x, hx, -, hunset⟩ := hshown calls source hcalls hsource s service.unreadable store now () _ _ hnode
    obtain rfl : x = abc := List.mem_singleton.mp hx
    have hshape : (src.shape abc).get .packetLoss = .unset := by decide
    refine ⟨src.node abc, _, hnode, hentry, ?_⟩
    exact (hunset _ _ hentry).mpr ⟨.packetLoss, rfl, hshape⟩

end TrafficShaping
