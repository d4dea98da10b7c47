import TrafficShaping.Proofs.ControlRoute

/-!
# Requests put none of their text on a command line

A command that comes of a request is made of the words of the builder and of the values of presets, and of
nothing else. For the dimension that a control sets this can be read off the table of controls. For the other
dimension the words come from the cache, which earlier requests wrote, so that it takes an invariant: an entry
never holds anything but values of presets. Neither the host nor the order of requests and events has a say in
that, and the ids in a request only select a control and a process.
-/

namespace TrafficShaping

variable {σ : Type}

/-! ## Presets -/

/-- The latencies that a control can set. -/
def presetLatencies : List String := ["2000ms", "1000ms", "500ms"]

/-- The options that a control can put on a command line, for a latency. -/
def presetOptions (latency : String) : List (List String) :=
  [["delay", latency], ["loss", "10%"], ["delay", latency, "loss", "10%"], ["loss", "10%", "delay", latency]]

/-- Whether a command is one that a control can give rise to. -/
def CommandBuilder.IsPreset (b : CommandBuilder) (command : Command) : Prop :=
  command = b.replace ∨ ∃ latency ∈ presetLatencies, ∃ options ∈ presetOptions latency,
    command = b.discipline "change" ++ options

/-- Whether a shape holds nothing that no control can set. -/
structure Shape.IsPreset (s : Shape) : Prop where
  latency : s.latency = .unset ∨ ∃ latency ∈ presetLatencies, s.latency = .set latency
  packetLoss : s.packetLoss = .unset ∨ s.packetLoss = .set "10%"

theorem Shape.isPreset_unset : Shape.IsPreset {} := ⟨.inl rfl, .inl rfl⟩

namespace Control

theorem isPreset_reshape (k : Control) {shape : Shape} (h : shape.IsPreset) : (k.reshape shape).IsPreset := by
  cases k with
  | slow => exact ⟨.inr ⟨"2000ms", by decide, rfl⟩, h.packetLoss⟩
  | medium => exact ⟨.inr ⟨"1000ms", by decide, rfl⟩, h.packetLoss⟩
  | fast => exact ⟨.inr ⟨"500ms", by decide, rfl⟩, h.packetLoss⟩
  | packetDropLow => exact ⟨h.latency, .inr rfl⟩
  | clear => exact Shape.isPreset_unset

/-- The value of a preset is one word. -/
theorem words_preset : ∀ value ∈ "10%" :: presetLatencies, Text.words value = [value] := by decide

theorem isPreset_change_latency (b : CommandBuilder) {latency : String} (h : latency ∈ presetLatencies)
    {loss : Param} (hloss : loss = .unset ∨ loss = .set "10%") :
    b.IsPreset (b.change .latency latency loss) := by
  have hwords := words_preset latency (List.mem_cons_of_mem _ h)
  refine .inr ⟨latency, h, ?_⟩
  rw [CommandBuilder.change, CommandBuilder.optionWords, hwords, List.append_assoc]
  rcases hloss with rfl | rfl
  · exact ⟨["delay", latency], by simp [presetOptions], rfl⟩
  · exact ⟨["delay", latency, "loss", "10%"], by simp [presetOptions], rfl⟩

theorem isPreset_change_packetLoss (b : CommandBuilder) {carried : Param}
    (hcarried : carried = .unset ∨ ∃ latency ∈ presetLatencies, carried = .set latency) :
    b.IsPreset (b.change .packetLoss "10%" carried) := by
  rcases hcarried with rfl | ⟨latency, hlatency, rfl⟩
  -- with no latency to carry, the words are the same for every preset
  · exact .inr ⟨"2000ms", by decide, ["loss", "10%"], by simp [presetOptions], rfl⟩
  · have hwords := words_preset latency (List.mem_cons_of_mem _ hlatency)
    refine .inr ⟨latency, hlatency, ["loss", "10%", "delay", latency], by simp [presetOptions], ?_⟩
    rw [CommandBuilder.change, List.append_assoc]
    show b.discipline "change" ++ ["loss", "10%", "delay"] ++ Text.words latency = _
    rw [hwords]
    rfl

theorem isPreset_commands (k : Control) (pid : Pid) (b : CommandBuilder) {shape : Shape} (h : shape.IsPreset) :
    ∀ command ∈ (k.operation pid).commands b shape, b.IsPreset command := by
  intro command hcommand
  cases k with
  | clear => exact .inl (List.mem_singleton.mp hcommand)
  | packetDropLow =>
      rcases List.mem_pair.mp hcommand with rfl | rfl
      · exact .inl rfl
      · exact isPreset_change_packetLoss b h.latency
  | slow | medium | fast =>
      rcases List.mem_pair.mp hcommand with rfl | rfl
      · exact .inl rfl
      · exact isPreset_change_latency b (by decide) h.packetLoss

end Control

/-! ## One operation -/

/-- Whether every entry of a cache holds nothing that no control can set. -/
def Cache.IsPreset (c : Cache) : Prop := ∀ shape ∈ c.shapes.values, shape.IsPreset

theorem Cache.IsPreset.read {c : Cache} (h : c.IsPreset) (n : Identity) : (c.read n).IsPreset := by
  rw [Cache.read]
  cases hget : c.get? n with
  | none => exact Shape.isPreset_unset
  | some shape => exact h shape (Dict.mem_values_iff.mpr ⟨n.text, hget⟩)

namespace Operation

/-- An entry after an operation was there before it or is the one that the operation wrote. -/
theorem mem_values_perform {o : Operation} {s : Shaper σ} {c : Cache} {w : σ} {shape : Shape}
    (h : shape ∈ (o.perform s c w).2.1.shapes.values) :
    shape ∈ c.shapes.values ∨ ∃ n, o.entry (c.get? n) = some shape := by
  rw [shapes_perform] at h
  cases hwritten : o.written? s c w with
  | none =>
      rw [hwritten] at h
      exact .inl h
  | some n =>
      rw [hwritten] at h
      obtain ⟨key, hkey⟩ := Dict.mem_values_iff.mp h
      cases o with
      | apply pid d value =>
          rw [Option.elim_some, commit, Cache.apply, Dict.get?_insert] at hkey
          split at hkey
          · exact .inr ⟨n, hkey⟩
          · exact .inl (Dict.mem_values_iff.mpr ⟨key, hkey⟩)
      | clear pid =>
          rw [Option.elim_some, commit, Cache.clear, Dict.get?_erase] at hkey
          split at hkey
          · cases hkey
          · exact .inl (Dict.mem_values_iff.mpr ⟨key, hkey⟩)

theorem commands_of_mem_runs {o : Operation} {s : Shaper σ} {c : Cache} {w : σ} {run : Run}
    (h : run ∈ o.runs s c w) : ∃ n, run.commands = o.commands s.builder (c.read n) := by
  rw [runs] at h
  split at h
  · cases h
  · obtain ⟨n, -, rfl⟩ := Option.map_eq_some_iff.mp (Option.mem_toList.mp h)
    exact ⟨n, rfl⟩

end Operation

namespace Control

theorem entry_operation {k : Control} {pid : Pid} {before : Option Shape} {shape : Shape}
    (h : (k.operation pid).entry before = some shape) : shape = k.reshape (before.getD {}) := by
  rw [← getD_entry_operation k pid before, h]
  rfl

theorem isPreset_perform (k : Control) (pid : Pid) (s : Shaper σ) {c : Cache} (hc : c.IsPreset) (w : σ) :
    (k.perform s pid c w).2.1.IsPreset := by
  intro shape hshape
  rw [perform_eq_operation] at hshape
  rcases Operation.mem_values_perform hshape with h | ⟨n, h⟩
  · exact hc shape h
  · rw [entry_operation h]
    exact k.isPreset_reshape (hc.read n)

end Control

/-! ## Requests and events -/

/-- What reaches a service between reports. -/
inductive Incoming where
  | control (now : Instant) (body : List UInt8)
  | event (e : LifeEvent)

namespace Service

/-- What a request or an event leaves. -/
def receive (s : Service σ) (x : Situation σ) : Incoming → Situation σ
  | .control now body =>
    let r := s.answer x.store now (.control body) x.cache x.host
    { x with cache := r.2.1, host := r.2.2 }
  | .event e => { x with store := x.store.apply e }

def received (s : Service σ) (arrivals : List Incoming) (x : Situation σ) : Situation σ :=
  arrivals.foldl s.receive x

/-- Whether neither the cache nor what the host was given to run holds text of a request. -/
structure OnlyPresets (s : Service σ) (x : Situation (σ × List Run)) : Prop where
  runs : ∀ run ∈ x.host.2, ∀ command ∈ run.commands, s.shaper.builder.IsPreset command
  cache : x.cache.IsPreset

theorem isPreset_controlRuns (s : Service σ) (store : Store) (body : List UInt8) {c : Cache}
    (hc : c.IsPreset) (w : σ) :
    ∀ run ∈ s.controlRuns store body c w, ∀ command ∈ run.commands, s.shaper.builder.IsPreset command := by
  intro run hrun
  rw [controlRuns] at hrun
  split at hrun
  · next x _ =>
      obtain ⟨n, hn⟩ := Operation.commands_of_mem_runs hrun
      rw [hn]
      exact x.control.isPreset_commands x.pid s.shaper.builder (hc.read n)
  · cases hrun

theorem isPreset_control (s : Service σ) (store : Store) (body : List UInt8) {c : Cache} (hc : c.IsPreset)
    (w : σ) : (s.control store body c w).2.1.IsPreset := by
  cases hr : ControlRequest.read? body with
  | none => rwa [s.control_of_unreadable store hr]
  | some r =>
      cases hx : store.resolve r.nodeId r.control with
      | error e => rwa [s.control_of_refuses hr (Store.resolve_eq_error_iff.mp hx)]
      | ok x =>
          rw [s.control_of_resolve hr hx]
          exact x.control.isPreset_perform x.pid s.shaper hc w

theorem OnlyPresets.receive {s : Service σ} {x : Situation (σ × List Run)} (h : s.OnlyPresets x)
    (i : Incoming) : s.OnlyPresets (s.recorded.receive x i) := by
  cases i with
  | event e => exact ⟨h.runs, h.cache⟩
  | control now body =>
      rw [Service.receive, answer_control]
      split
      · exact ⟨h.runs, h.cache⟩
      · obtain ⟨⟨w, runs⟩, store, c⟩ := x
        rw [control_recorded]
        refine ⟨fun run hrun => ?_, s.isPreset_control store body h.cache w⟩
        rcases List.mem_append.mp hrun with hrun | hrun
        · exact h.runs run hrun
        · exact s.isPreset_controlRuns store body h.cache w run hrun

/-- Whatever bodies and events reach a service, wherever one stops, and whatever the host makes of it: every
command that the host was given is the replacement of the discipline or sets nothing but presets, and no entry
of the cache holds anything else. -/
theorem commands_are_presets (s : Service σ) (arrivals : List Incoming) (store : Store) (w : σ) :
    let x := s.recorded.received arrivals { host := (w, []), store := store }
    (∀ run ∈ x.host.2, ∀ command ∈ run.commands, s.shaper.builder.IsPreset command) ∧
      ∀ shape ∈ x.cache.shapes.values, shape.IsPreset := by
  have h : s.OnlyPresets (s.recorded.received arrivals { host := (w, []), store := store }) := by
    induction arrivals using List.reverseRecOn with
    | nil => exact ⟨nofun, nofun⟩
    | append_singleton arrivals i ih =>
        rw [received, List.foldl_append]
        exact ih.receive i
  exact ⟨h.runs, h.cache⟩

end Service

end TrafficShaping
