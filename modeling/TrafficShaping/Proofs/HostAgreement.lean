import TrafficShaping.Proofs.Netem

/-!
# When the cache agrees with the host

An operation that fails changes no entry, but it may have changed the host: applying a value takes two
commands, the first one empties the discipline, and if the second one then fails, the host has lost what the
cache still remembers. Agreement is therefore not kept by every call. It is decided by the last call that
took effect in a namespace at all, whatever came before it:

* none, or one that cleared the namespace: cache and host agree;
* one that failed: the host holds nothing, so they agree only if nothing is remembered;
* one that applied a value: they agree, unless the value is one that is taken for unset, or a value contains
  a keyword and the host has read it as two options.

The invariant behind this, `Settled`, says for each of these cases what the host holds and what is
remembered. A call that took effect elsewhere, or nowhere, leaves it alone, and one that took effect here
establishes it again without looking at what was there before.
-/

namespace TrafficShaping

/-- The options that a shape stands for. -/
def Shape.options (s : Shape) : Netem :=
  ⟨s.latency.value?.map Text.words, s.packetLoss.value?.map Text.words⟩

theorem Shape.get_options (s : Shape) (d : Dimension) :
    s.options.get d = (s.get d).value?.map Text.words := by
  cases d <;> rfl

theorem Shape.options_set (s : Shape) (d : Dimension) (p : Param) :
    (s.set d p).options = s.options.set d (p.value?.map Text.words) := by
  cases d <;> rfl

theorem Param.value?_eq_none_iff {p : Param} : p.value? = none ↔ p = .unset := by
  cases p <;> simp [value?]

theorem Shape.options_eq_empty_iff {s : Shape} : s.options = {} ↔ s = {} := by
  obtain ⟨latency, packetLoss⟩ := s
  simp [options, Param.value?_eq_none_iff]

/-! ## What an operation makes of the host -/

/-- The options that an operation leaves in a namespace of a given shape if all its commands take effect. -/
def Operation.settings (o : Operation) (shape : Shape) : Netem :=
  match o with
  | .apply _ d value =>
    .ofWords (CommandBuilder.optionWords d value ++
      (shape.get d.other).value?.elim [] (CommandBuilder.optionWords d.other))
  | .clear _ => {}

/-- How far the commands of an operation get, and what they make of the host. -/
inductive Operation.Reaches (o : Operation) (n : Identity) (shape : Shape) (h h' : NetemHost) :
    Except ShapingError Unit → Prop
  | nothing (e : ShapingError) (options : h'.options = h.options) (effects : h'.effects = h.effects) :
      Reaches o n shape h h' (.error e)
  | half (e : ShapingError) (options : h'.options = h.optionsWith n {})
      (effects : h.effects < h'.effects) : Reaches o n shape h h' (.error e)
  | all (options : h'.options = h.optionsWith n (o.settings shape))
      (effects : h.effects < h'.effects) : Reaches o n shape h h' (.ok ())

theorem reaches_execute (o : Operation) (b : CommandBuilder) (fate : Nat → Option ShapingError)
    (n : Identity) (shape : Shape) (h : NetemHost) :
    o.Reaches n shape h (NetemHost.execute fate n (o.commands b shape) h).2
      (NetemHost.execute fate n (o.commands b shape) h).1 := by
  have hreplace : (h.obey n b.replace).options = h.optionsWith n {} := by
    rw [NetemHost.options_obey, Netem.obey_replace]
  cases o with
  | clear pid =>
      simp only [Operation.commands, CommandBuilder.clear, NetemHost.execute]
      cases fate h.given with
      | some e => exact .nothing e rfl rfl
      | none => exact .all hreplace (Nat.lt_succ_self _)
  | apply pid d value =>
      simp only [Operation.commands, CommandBuilder.build, NetemHost.execute]
      cases fate h.given with
      | some e => exact .nothing e rfl rfl
      | none =>
          simp only
          cases fate (h.obey n b.replace).given with
          | some e => exact .half e hreplace (Nat.lt_succ_self _)
          | none =>
              refine .all ?_ (Nat.lt_succ_of_lt (Nat.lt_succ_self _))
              exact (h.options_obey_obey n _ _).trans (by rw [Netem.obey_change]; rfl)

/-- However far they get, the commands of an operation leave every other namespace alone. -/
theorem Operation.Reaches.options_of_ne {o : Operation} {n m : Identity} {shape : Shape}
    {h h' : NetemHost} {result : Except ShapingError Unit} (hreaches : o.Reaches n shape h h' result)
    (hm : m ≠ n) : h'.options m = h.options m := by
  cases hreaches with
  | nothing e options effects => exact congrFun options m
  | half e options effects => rw [options, NetemHost.optionsWith_of_ne hm]
  | all options effects => rw [options, NetemHost.optionsWith_of_ne hm]

section Calls

variable {b : CommandBuilder} {place : Pid → Identity} {fate : Nat → Option ShapingError}

/-- The shaper on a host that obeys. -/
abbrev netemShaper (b : CommandBuilder) (place : Pid → Identity)
    (fate : Nat → Option ShapingError) : Shaper NetemHost := ⟨b, NetemHost.host place fate⟩

theorem attempt_netemShaper (o : Operation) (c : Cache) (h : NetemHost) (hblank : o.isBlank = false) :
    o.attempt (netemShaper b place fate) c h =
      let r := NetemHost.execute fate (place o.pid) (o.commands b (c.read (place o.pid))) h
      (r.1.map fun _ => some (place o.pid), r.2) := by
  have hconfirm : ∀ h' : NetemHost,
      (netemShaper b place fate).confirm o.pid (place o.pid) h' = (.ok (), h') :=
    fun _ => Shaper.confirm_of_resolve rfl
  rw [Operation.attempt, if_neg (by simp [hblank]), Shaper.attempt]
  simp only [NetemHost.host]
  rcases NetemHost.execute fate (place o.pid) (o.commands b (c.read (place o.pid))) h with
    ⟨e | ⟨⟩, h'⟩
  · rfl
  · simp only [hconfirm]
    rfl

theorem reaches_call (o : Operation) (x : Cache × NetemHost) (hblank : o.isBlank = false) :
    o.Reaches (place o.pid) (x.1.read (place o.pid)) x.2
      (o.call (netemShaper b place fate) x).after.2 (o.call (netemShaper b place fate) x).result := by
  have hresult : (o.call (netemShaper b place fate) x).result = _ :=
    o.fst_perform (netemShaper b place fate) x.1 x.2
  have hafter : (o.call (netemShaper b place fate) x).after.2 = _ :=
    o.snd_snd_perform (netemShaper b place fate) x.1 x.2
  rw [hresult, hafter, attempt_netemShaper o x.1 x.2 hblank]
  have h := reaches_execute o b fate (place o.pid) (x.1.read (place o.pid)) x.2
  simp only
  generalize NetemHost.execute fate (place o.pid) (o.commands b (x.1.read (place o.pid))) x.2 = r at h ⊢
  obtain ⟨e | ⟨⟩, h'⟩ := r <;> exact h

/-! ## The last call that took effect -/

/-- Whether some command of a call took effect in a namespace. -/
def Call.tookEffect (place : Pid → Identity) (n : Identity) (call : Call NetemHost) : Bool :=
  place call.operation.pid = n && decide (call.before.2.effects < call.after.2.effects)

/-- The last of some calls that took effect in a namespace. -/
def lastEffect (place : Pid → Identity) (n : Identity) (calls : List (Call NetemHost)) :
    Option (Call NetemHost) :=
  (calls.filter (·.tookEffect place n)).getLast?

theorem lastEffect_append_singleton (n : Identity) (calls : List (Call NetemHost))
    (call : Call NetemHost) : lastEffect place n (calls ++ [call]) =
      if call.tookEffect place n then some call else lastEffect place n calls := by
  rw [lastEffect, List.filter_append]
  split
  · next h => rw [List.filter_cons_of_pos h]; exact List.getLast?_concat
  · next h => rw [List.filter_cons_of_neg h, List.filter_nil, List.append_nil]; rfl

/-- What the host holds in a namespace and what is remembered of it, by the last call that took effect
there. -/
inductive Settled : Option (Call NetemHost) → Netem → Option Shape → Prop
  | untouched : Settled none {} none
  | failed {call : Call NetemHost} {e : ShapingError} (entry : Option Shape)
      (result : call.result = .error e) : Settled (some call) {} entry
  | done {call : Call NetemHost} (before : Option Shape) (result : call.result = .ok ())
      (notBlank : call.operation.isBlank = false) :
      Settled (some call) (call.operation.settings (before.getD {})) (call.operation.entry before)

theorem get?_call_netemShaper (o : Operation) (x : Cache × NetemHost) (n : Identity)
    (hblank : o.isBlank = false) :
    (o.call (netemShaper b place fate) x).after.1.get? n =
      if (o.call (netemShaper b place fate) x).result = .ok () ∧ place o.pid = n then
        o.entry (x.1.get? n)
      else x.1.get? n := by
  have hwritten : o.written? (netemShaper b place fate) x.1 x.2 = some n ↔
      (o.call (netemShaper b place fate) x).result = .ok () ∧ place o.pid = n := by
    rw [Operation.written?_eq_some_iff]
    exact and_congr_right fun _ => (and_iff_right hblank).trans Option.some_inj
  rw [← if_congr hwritten rfl rfl]
  exact o.get?_perform (netemShaper b place fate) x.1 x.2 n

/-- A call takes no effect in a namespace, or empties it and fails, or does there what was asked. -/
theorem call_netemShaper_cases (b : CommandBuilder) (place : Pid → Identity)
    (fate : Nat → Option ShapingError) (o : Operation) (x : Cache × NetemHost) (n : Identity) :
    let call := o.call (netemShaper b place fate) x
    (call.tookEffect place n = false ∧ call.after.2.options n = x.2.options n ∧
        call.after.1.get? n = x.1.get? n) ∨
      (call.tookEffect place n = true ∧ call.after.2.options n = {} ∧ ∃ e, call.result = .error e) ∨
      (call.tookEffect place n = true ∧ call.result = .ok () ∧ o.isBlank = false ∧
        call.after.2.options n = o.settings (x.1.read n) ∧
        call.after.1.get? n = o.entry (x.1.get? n)) := by
  intro call
  cases hblank : o.isBlank with
  | true =>
      have hafter : call.after = x := congrArg (·.2) (o.perform_of_isBlank hblank _ x.1 x.2)
      refine .inl ⟨?_, by rw [hafter], by rw [hafter]⟩
      rw [Call.tookEffect, hafter]
      exact (Bool.and_eq_false_iff).mpr (.inr (decide_eq_false (Nat.lt_irrefl _)))
  | false =>
      have hget : call.after.1.get? n = _ := get?_call_netemShaper o x n hblank
      have hreaches : o.Reaches (place o.pid) (x.1.read (place o.pid)) x.2 call.after.2 call.result :=
        reaches_call o x hblank
      have htook : call.tookEffect place n =
          (place o.pid = n && decide (x.2.effects < call.after.2.effects)) := rfl
      by_cases hn : place o.pid = n
      · rw [hn] at hreaches
        rw [decide_eq_true hn, Bool.true_and] at htook
        rw [htook]
        generalize call.result = result at hreaches hget ⊢
        cases hreaches with
        | nothing e options effects =>
            refine .inl ⟨?_, congrFun options n, ?_⟩
            · rw [effects, decide_eq_false (Nat.lt_irrefl _)]
            · rw [hget, if_neg fun h => by cases h.1]
        | half e options effects =>
            refine .inr (.inl ⟨decide_eq_true effects, ?_, e, rfl⟩)
            rw [options, NetemHost.optionsWith_self]
        | all options effects =>
            refine .inr (.inr ⟨decide_eq_true effects, rfl, rfl, ?_, ?_⟩)
            · rw [options, NetemHost.optionsWith_self]
            · rw [hget, if_pos ⟨rfl, hn⟩]
      · refine .inl ⟨?_, hreaches.options_of_ne (Ne.symm hn), ?_⟩
        · rw [htook, decide_eq_false hn, Bool.false_and]
        · rw [hget, if_neg fun h => hn h.2]

/-- One more call keeps what is settled in every namespace. -/
theorem settled_call {x : Cache × NetemHost} {n : Identity} {calls : List (Call NetemHost)}
    (h : Settled (lastEffect place n calls) (x.2.options n) (x.1.get? n)) (o : Operation) :
    Settled (lastEffect place n (calls ++ [o.call (netemShaper b place fate) x]))
      ((o.call (netemShaper b place fate) x).after.2.options n)
      ((o.call (netemShaper b place fate) x).after.1.get? n) := by
  rw [lastEffect_append_singleton]
  rcases call_netemShaper_cases b place fate o x n with
    ⟨htook, hoptions, hget⟩ | ⟨htook, hoptions, e, hresult⟩ | ⟨htook, hresult, hblank, hoptions, hget⟩
  · rw [htook, hoptions, hget]
    exact h
  · rw [htook, hoptions]
    exact .failed _ hresult
  · rw [htook, hoptions, hget]
    exact .done (x.1.get? n) hresult hblank

theorem settled_run (os : List Operation) (n : Identity) :
    Settled (lastEffect place n ((netemShaper b place fate).calls os ({}, {})))
      (((netemShaper b place fate).run os ({}, {})).2.options n)
      (((netemShaper b place fate).run os ({}, {})).1.get? n) := by
  induction os using List.reverseRecOn with
  | nil => exact .untouched
  | append_singleton os o ih =>
      rw [Shaper.calls_append_singleton, Shaper.run_append_singleton]
      exact settled_call ih o

end Calls

/-! ## Agreement -/

/-- The options that applying a value leaves are those of the shape that is remembered then, unless the
value is taken for unset or some value is read as more than one option. -/
theorem settings_apply_eq_options_iff {value : String} (hvalue : Text.trim value ≠ "") (s : Shape)
    (pid : Pid) (d : Dimension) :
    (Operation.apply pid d value).settings s = (s.set d (.ofText value)).options ↔
      Text.trim value ≠ Param.unsetText ∧ (s.set d (.ofText value)).options.Plain := by
  constructor
  · intro h
    refine ⟨?_, h ▸ Netem.plain_ofWords _⟩
    intro hunset
    have hset : (((Operation.apply pid d value).settings s).get d).isSome :=
      Netem.isSome_get_ofWords_option d value _
    rw [h, Shape.get_options, Shape.get_set_self, Param.ofText, if_pos (.inr hunset)] at hset
    cases hset
  · rintro ⟨hunset, hplain⟩
    have hparam : Param.ofText value = .set (Text.trim value) :=
      if_neg (not_or.mpr ⟨hvalue, hunset⟩)
    rw [hparam] at hplain ⊢
    have hwords : ∀ w ∈ Text.words value, Dimension.ofOption? w = none := by
      refine hplain d _ ?_
      rw [Shape.get_options, Shape.get_set_self, ← Text.words_trim]
      rfl
    have hother : ∀ v, (s.get d.other).value? = some v →
        ∀ w ∈ Text.words v, Dimension.ofOption? w = none := by
      intro v hv
      refine hplain d.other _ ?_
      rw [Shape.get_options, Shape.get_set_other, hv]
      rfl
    rw [Operation.settings, Netem.ofWords_change hwords hother, Shape.options_set,
      Netem.set_eq_set_set_other s.options, Shape.get_options, ← Text.words_trim value]
    rfl

/-- Whether what is remembered of a namespace can be relied on, by the last call that took effect there. -/
def Reliable (last : Option (Call NetemHost)) (remembered : Shape) : Prop :=
  match last with
  | none => True
  | some call =>
    match call.result, call.operation with
    | .error _, _ => remembered = {}
    | .ok _, .clear _ => True
    | .ok _, .apply _ _ value => Text.trim value ≠ Param.unsetText ∧ remembered.options.Plain

theorem Settled.agree_iff {last : Option (Call NetemHost)} {q : Netem} {entry : Option Shape}
    (h : Settled last q entry) : q = (entry.getD {}).options ↔ Reliable last (entry.getD {}) := by
  cases h with
  | untouched => exact ⟨fun _ => trivial, fun _ => rfl⟩
  | failed entry result =>
      rw [Reliable]
      simp only [result]
      exact eq_comm.trans Shape.options_eq_empty_iff
  | @done call before result notBlank =>
      rw [Reliable]
      simp only [result]
      cases hoperation : call.operation with
      | clear pid => exact ⟨fun _ => trivial, fun _ => rfl⟩
      | apply pid d value =>
          have hvalue : Text.trim value ≠ "" := by
            simpa [hoperation, Operation.isBlank] using notBlank
          exact settings_apply_eq_options_iff hvalue _ pid d

/-- After any calls, the cache describes what the host holds in a namespace exactly if the last call that
took effect there lets it be relied on. -/
theorem options_run_eq_options_read_iff (b : CommandBuilder) (place : Pid → Identity)
    (fate : Nat → Option ShapingError) (os : List Operation) (n : Identity) :
    let s := netemShaper b place fate
    (s.run os ({}, {})).2.options n = ((s.run os ({}, {})).1.read n).options ↔
      Reliable (lastEffect place n (s.calls os ({}, {}))) ((s.run os ({}, {})).1.read n) :=
  (settled_run os n).agree_iff

/-- A packet loss that is applied halfway: the host has dropped the latency, and the cache remembers it. -/
theorem options_run_ne_options_read :
    let refused : ShapingError :=
      .command (.nonZero "tc qdisc change dev eth0 root handle 1: netem loss 10% delay 500ms"
        ⟨.exited 2, "", "RTNETLINK answers: Operation not permitted"⟩)
    let n : Identity := ⟨"4026531840", by decide⟩
    let s := netemShaper {} (fun _ => n) fun i => if i = 3 then some refused else none
    let x := s.run [.apply 1 .latency "500ms", .apply 1 .packetLoss "10%"] ({}, {})
    x.2.options n = {} ∧ (x.1.read n).options = { delay := some ["500ms"] } ∧
      x.2.options n ≠ (x.1.read n).options := by
  decide

end TrafficShaping
