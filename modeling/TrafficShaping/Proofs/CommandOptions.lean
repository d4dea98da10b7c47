import TrafficShaping.Proofs.ParamText
import TrafficShaping.Proofs.RecordedRuns
import Mathlib.Data.List.Nodup

/-!
# Options on the command line

What the host is told and what the cache remembers come from the same two texts by different ways. The value
that is applied goes onto the command line as it is, cut into words, and into the cache trimmed; the value of
the other dimension comes out of the cache, where an earlier operation has put it. If an operation succeeds,
the two say the same, word for word. There is nothing to carry from one operation to the next for that:
cutting a text into words and trimming it first is cutting it into words.

What counts as no value is decided twice, though, and not in the same way. A blank value asks for nothing and
never reaches the host. The hyphen is unset to the cache, but not blank, and so it does reach the host, as
the only word of the option that was applied. No other option on any command line of a run is like that. For
the one that is carried over this takes an invariant: whatever operations have left in the cache is normal.
-/

namespace TrafficShaping

/-- An option on a command line: a keyword and the words of a value. -/
structure OptionGroup where
  dimension : Dimension
  words : List String
deriving DecidableEq

def OptionGroup.line (g : OptionGroup) : List String := g.dimension.option :: g.words

/-- The option that stands for a parameter; none if it is unset. -/
def Param.group? (p : Param) (d : Dimension) : Option OptionGroup :=
  p.value?.map fun value => ⟨d, Text.words value⟩

/-- The options that stand for a shape, a given dimension first. -/
def Shape.groups (s : Shape) (first : Dimension) : List OptionGroup :=
  ((s.get first).group? first).toList ++ ((s.get first.other).group? first.other).toList

/-- The options of a change: that of the value that is applied and that of the parameter carried over. -/
def changeOptions (d : Dimension) (value : String) (other : Param) : List OptionGroup :=
  ⟨d, Text.words value⟩ :: (other.group? d.other).toList

theorem CommandBuilder.change_eq (b : CommandBuilder) (d : Dimension) (value : String) (other : Param) :
    b.change d value other =
      b.discipline "change" ++ (changeOptions d value other).flatMap (·.line) := by
  rw [change, List.append_assoc, changeOptions, List.flatMap_cons]
  cases other with
  | unset => rfl
  | set carried => simp [Param.group?, Param.value?, OptionGroup.line, optionWords]

/-- The options that stand for a shape after a value was applied are those of the change. -/
theorem Shape.groups_set {value : String} (hblank : Text.trim value ≠ "")
    (hset : Text.trim value ≠ Param.unsetText) (s : Shape) (d : Dimension) :
    (s.set d (.ofText value)).groups d = changeOptions d value (s.get d.other) := by
  rw [groups, get_set_self, get_set_other, Param.ofText_eq_set hblank hset, changeOptions,
    ← Text.words_trim value]
  rfl

/-! ## One operation -/

variable {σ : Type}

/-- A value that is applied is given to the host in two commands, if the process is found. If the operation
succeeds, the words of the second one are those of the shape that the cache holds for the namespace then: of
the value that was applied, and of the one that was there before in the other dimension, if there was one. -/
theorem commands_render_entry (s : Shaper σ) (x : Cache × σ × List Run) (pid : Pid) (d : Dimension)
    {value : String} (hblank : Text.trim value ≠ "") (hset : Text.trim value ≠ Param.unsetText) :
    let o : Operation := .apply pid d value
    let call := o.call s.recorded x
    let change (options : List String) : Command := s.builder.replace.set 2 "change" ++ options
    (call.after.2.2 = x.2.2 ∨
      ∃ options, call.after.2.2 = x.2.2 ++ [⟨pid, [s.builder.replace, change options]⟩]) ∧
    (call.result = .ok () → ∃ n shape,
      o.found? s x.2.1 = some n ∧ call.after.1.get? n = some shape ∧
      call.after.2.2 = x.2.2 ++
        [⟨pid, [s.builder.replace, change ((shape.groups d).flatMap (·.line))]⟩] ∧
      shape.get d = .set (Text.trim value) ∧ Text.words (Text.trim value) = Text.words value ∧
      shape.get d.other = (x.1.read n).get d.other) := by
  obtain ⟨c, w, runs⟩ := x
  intro o call change
  have hasks : o.isBlank = false := decide_eq_false hblank
  have hcall := o.perform_recorded s c w runs
  have hruns : call.after.2.2 = runs ++ o.runs s c w := congrArg (·.2.2.2) hcall
  have hcache : call.after.1 = (o.perform s c w).2.1 := congrArg (·.2.1) hcall
  have hresult : call.result = (o.perform s c w).1 := congrArg (·.1) hcall
  have hgiven : ∀ n, o.found? s w = some n → call.after.2.2 = runs ++ [⟨pid, [s.builder.replace,
      change ((changeOptions d value ((c.read n).get d.other)).flatMap (·.line))]⟩] := by
    intro n hn
    rw [hruns, Operation.runs_of_found? hasks hn]
    show runs ++ [⟨pid, [s.builder.replace, s.builder.change d value ((c.read n).get d.other)]⟩] = _
    rw [s.builder.change_eq]
    rfl
  constructor
  · cases hfound : o.found? s w with
    | none =>
        left
        rw [hruns, Operation.runs_of_found?_eq_none hfound, List.append_nil]
    | some n => exact .inr ⟨_, hgiven n hfound⟩
  · intro hok
    rw [hresult] at hok
    obtain ⟨n, hfound⟩ := Operation.found?_of_perform_ok hasks hok
    have hwritten : o.written? s c w = some n :=
      Operation.written?_eq_some_iff.mpr ⟨hok, hasks, hfound⟩
    have hentry : call.after.1.get? n = some ((c.read n).set d (.ofText value)) := by
      rw [hcache, Operation.get?_perform, if_pos hwritten]
      rfl
    refine ⟨n, _, hfound, hentry, ?_, ?_, Text.words_trim value, Shape.get_set_other _ _ _⟩
    · rw [hgiven n hfound, Shape.groups_set hblank hset]
    · rw [Shape.get_set_self, Param.ofText_eq_set hblank hset]

/-- A delay with jitter, between blanks of several kinds, over a packet loss that was applied before. -/
theorem commands_render_jitter :
    let n : Identity := ⟨"4026531840", by decide⟩
    let s : Shaper Unit := ⟨{}, fun _ w => (.ok n, w), fun _ _ w => (.ok (), w)⟩
    let x := s.recorded.run [.apply 1 .packetLoss "\u00a010%\n"] ({}, (), [])
    let value := "\u3000100ms\u00a010ms \t"
    let call := (Operation.apply 1 .latency value).call s.recorded x
    Text.trim value ≠ "" ∧ Text.trim value ≠ Param.unsetText ∧ call.result = .ok () ∧
      ∃ shape, call.after.1.get? n = some shape ∧ shape = ⟨.set "100ms\u00a010ms", .set "10%"⟩ ∧
        call.after.2.2 = x.2.2 ++ [⟨1, [
          ["tc", "qdisc", "replace", "dev", "eth0", "root", "handle", "1:", "netem"],
          ["tc", "qdisc", "change", "dev", "eth0", "root", "handle", "1:", "netem", "delay", "100ms", "10ms",
            "loss", "10%"]]⟩] := by
  intro n s x value call
  have hblank : Text.trim value ≠ "" := by decide
  have hset : Text.trim value ≠ Param.unsetText := by decide
  have hok : call.result = .ok () := by decide
  obtain ⟨m, shape, hfound, hentry, hgiven, -, -, -⟩ :=
    (commands_render_entry s x 1 .latency hblank hset).2 hok
  obtain rfl : m = n := (Option.some.inj hfound).symm
  have hshape : shape = ⟨.set "100ms\u00a010ms", .set "10%"⟩ :=
    Option.some.inj (hentry.symm.trans (by decide))
  refine ⟨hblank, hset, hok, shape, hentry, hshape, ?_⟩
  rw [hgiven, hshape]
  decide

/-! ## All operations of a run -/

/-- Whether a command line can hold options: one or two, with different keywords, each with a word. -/
structure OptionGroup.WellFormed (groups : List OptionGroup) : Prop where
  nonempty : groups ≠ []
  few : groups.length ≤ 2
  apart : (groups.map (·.dimension.option)).Nodup
  worded : ∀ g ∈ groups, g.words ≠ []

theorem OptionGroup.mem_changeOptions {d : Dimension} {value : String} {other : Param} {g : OptionGroup}
    (h : g ∈ changeOptions d value other) : g = ⟨d, Text.words value⟩ ∨
      ∃ carried, other = .set carried ∧ g = ⟨d.other, Text.words carried⟩ := by
  rcases List.mem_cons.mp h with rfl | h
  · exact .inl rfl
  · cases other with
    | unset => cases h
    | set carried => exact .inr ⟨carried, rfl, List.mem_singleton.mp h⟩

theorem OptionGroup.wellFormed_changeOptions {value : String} (hblank : Text.trim value ≠ "") {other : Param}
    (hother : other.IsNormal) (d : Dimension) : WellFormed (changeOptions d value other) where
  nonempty := List.cons_ne_nil _ _
  few := by
    cases other with
    | unset => exact Nat.le_succ 1
    | set carried => exact Nat.le_refl 2
  apart := by
    cases other with
    | unset => exact List.nodup_singleton _
    | set carried =>
        show [d.option, d.other.option].Nodup
        cases d <;> decide
  worded g hg := by
    rcases mem_changeOptions hg with rfl | ⟨carried, rfl, rfl⟩
    · exact fun h => hblank (Text.words_eq_nil_iff.mp h)
    · exact hother.words_ne_nil

/-- What is carried over is never the hyphen. -/
theorem OptionGroup.words_eq_unsetText_iff {d : Dimension} {value : String} {other : Param}
    (hother : other.IsNormal) {g : OptionGroup} (hg : g ∈ changeOptions d value other) :
    g.words = [Param.unsetText] ↔ g.dimension = d ∧ Text.trim value = Param.unsetText := by
  rcases mem_changeOptions hg with rfl | ⟨carried, rfl, rfl⟩
  · exact Param.words_eq_unsetText_iff.trans (and_iff_right rfl).symm
  · refine iff_of_false hother.words_ne_unsetText ?_
    rintro ⟨hsame, -⟩
    cases d <;> cases hsame

theorem Operation.isNormal_commit {c : Cache} (h : c.IsNormal) (o : Operation) (n : Identity) :
    (o.commit n c).IsNormal := by
  cases o with
  | apply pid d value => exact h.apply n (.ofText d value) (Mutation.isNormal_ofText d value)
  | clear pid => exact h.clear n

theorem Operation.isNormal_perform {c : Cache} (h : c.IsNormal) (o : Operation) (s : Shaper σ) (w : σ) :
    (o.perform s c w).2.1.IsNormal := by
  intro n d
  rw [Cache.read, Cache.get?, shapes_perform]
  cases o.written? s c w with
  | none => exact h n d
  | some m => exact o.isNormal_commit h m n d

theorem Shaper.isNormal_before {s : Shaper σ} {os : List Operation} {c : Cache} {w : σ}
    (h : c.IsNormal) {call : Call σ} (hcall : call ∈ s.calls os (c, w)) : call.before.1.IsNormal := by
  induction os generalizing c w with
  | nil => cases hcall
  | cons o os ih =>
      rcases List.mem_cons.mp hcall with rfl | hcall
      · exact h
      · exact ih (o.isNormal_perform h s w) hcall

/-- The options of the change that a call hands to the host; none if it hands over no change. -/
def Call.groups (s : Shaper σ) (call : Call σ) : List OptionGroup :=
  match call.operation, call.operation.found? s call.before.2 with
  | .apply _ d value, some n =>
    if Text.trim value = "" then [] else changeOptions d value ((call.before.1.read n).get d.other)
  | _, _ => []

/-- What a call hands to the host is the empty discipline, and then its options if it sets any. -/
theorem Call.mem_runs {s : Shaper σ} {call : Call σ} {run : Run} {command : Command}
    (hrun : run ∈ call.runs s) (hcommand : command ∈ run.commands) : command = s.builder.replace ∨
      command = s.builder.discipline "change" ++ (call.groups s).flatMap (·.line) ∧
        call.groups s ≠ [] := by
  obtain ⟨o, ⟨c, w⟩, result, after⟩ := call
  rw [runs, Operation.runs] at hrun
  split at hrun
  · cases hrun
  · next hasks =>
      obtain ⟨n, hfound, rfl⟩ := Option.map_eq_some_iff.mp (Option.mem_toList.mp hrun)
      cases o with
      | clear pid => exact .inl (List.mem_singleton.mp hcommand)
      | apply pid d value =>
          have hblank : Text.trim value ≠ "" := by simpa [Operation.isBlank] using hasks
          rcases List.mem_pair.mp hcommand with rfl | rfl
          · exact .inl rfl
          · right
            simp only [groups, hfound, if_neg hblank]
            exact ⟨s.builder.change_eq d value _, List.cons_ne_nil _ _⟩

theorem Call.groups_eq_nil_or (s : Shaper σ) (call : Call σ) : call.groups s = [] ∨
    ∃ pid d value n, call.operation = .apply pid d value ∧ Text.trim value ≠ "" ∧
      call.operation.found? s call.before.2 = some n ∧
      call.groups s = changeOptions d value ((call.before.1.read n).get d.other) := by
  rw [groups]
  split
  · next pid d value n hoperation hfound =>
      split
      · exact .inl rfl
      · next hblank => exact .inr ⟨pid, d, value, n, hoperation, hblank, hfound, rfl⟩
  · exact .inl rfl

section Calls

variable {s : Shaper σ} {call : Call σ}

theorem Call.wellFormed_groups (hnormal : call.before.1.IsNormal) (h : call.groups s ≠ []) :
    OptionGroup.WellFormed (call.groups s) := by
  rcases call.groups_eq_nil_or s with hnil | ⟨pid, d, value, n, -, hblank, -, hgroups⟩
  · exact absurd hnil h
  · rw [hgroups]
    exact OptionGroup.wellFormed_changeOptions hblank (hnormal n d.other) d

theorem Call.words_eq_unsetText_iff (hnormal : call.before.1.IsNormal) {g : OptionGroup}
    (hg : g ∈ call.groups s) : g.words = [Param.unsetText] ↔
      ∃ pid value, call.operation = .apply pid g.dimension value ∧
        Text.trim value = Param.unsetText := by
  rcases call.groups_eq_nil_or s with hnil | ⟨pid, d, value, n, hoperation, -, -, hgroups⟩
  · rw [hnil] at hg
    cases hg
  · rw [hgroups] at hg
    rw [OptionGroup.words_eq_unsetText_iff (hnormal n d.other) hg]
    constructor
    · rintro ⟨rfl, htrim⟩
      exact ⟨pid, value, hoperation, htrim⟩
    · rintro ⟨pid', value', hoperation', htrim⟩
      rw [hoperation] at hoperation'
      cases hoperation'
      exact ⟨rfl, htrim⟩

theorem Call.exists_unset_iff (hnormal : call.before.1.IsNormal) :
    (∃ g ∈ call.groups s, g.words = [Param.unsetText]) ↔
      (∃ pid d value, call.operation = .apply pid d value ∧ Text.trim value = Param.unsetText) ∧
        (call.operation.found? s call.before.2).isSome := by
  constructor
  · rintro ⟨g, hg, hwords⟩
    obtain ⟨pid, value, happlied⟩ := (words_eq_unsetText_iff hnormal hg).mp hwords
    rcases call.groups_eq_nil_or s with hnil | ⟨-, -, -, n, -, -, hfound, -⟩
    · rw [hnil] at hg
      cases hg
    · exact ⟨⟨pid, g.dimension, value, happlied⟩, by rw [hfound]; rfl⟩
  · rintro ⟨⟨pid, d, value, hoperation, htrim⟩, hfound⟩
    obtain ⟨n, hfound⟩ := Option.isSome_iff_exists.mp hfound
    have hblank : Text.trim value ≠ "" := by
      rw [htrim]
      decide
    have hgroups : call.groups s = changeOptions d value ((call.before.1.read n).get d.other) := by
      rw [groups, hfound, hoperation]
      exact if_neg hblank
    refine ⟨⟨d, Text.words value⟩, ?_, Param.words_eq_unsetText_iff.mpr htrim⟩
    rw [hgroups]
    exact List.mem_cons_self

end Calls

/-- The hyphen reaches the host exactly where it is applied: after any operations on an empty cache, over a
host that may answer and fail as it likes, what the host was given is the record of the calls; every command
in it is the empty discipline or sets one or two options with different keywords and at least one word each;
and the hyphen is the only word of an option just if that is the option of the value which was applied and
the value, trimmed, is the hyphen. So there is such an option on some command line of the run if and only if
some call applies the hyphen to a process that is found. -/
theorem unset_reaches_host_iff (s : Shaper σ) (os : List Operation) (w : σ) :
    let calls := s.calls os ({}, w)
    (s.recorded.run os ({}, w, [])).2.2 = calls.flatMap (·.runs s) ∧
    (∀ call ∈ calls, ∀ run ∈ call.runs s, ∀ command ∈ run.commands, command = s.builder.replace ∨
      command = s.builder.replace.set 2 "change" ++ (call.groups s).flatMap (·.line) ∧
        OptionGroup.WellFormed (call.groups s)) ∧
    (∀ call ∈ calls, ∀ g ∈ call.groups s, g.words = [Param.unsetText] ↔
      ∃ pid value, call.operation = .apply pid g.dimension value ∧
        Text.trim value = Param.unsetText) ∧
    ((∃ call ∈ calls, ∃ g ∈ call.groups s, g.words = [Param.unsetText]) ↔
      ∃ call ∈ calls, (∃ pid d value, call.operation = .apply pid d value ∧
        Text.trim value = Param.unsetText) ∧ (call.operation.found? s call.before.2).isSome) := by
  intro calls
  have hnormal : ∀ call ∈ calls, call.before.1.IsNormal :=
    fun call hcall => s.isNormal_before Cache.isNormal_empty hcall
  refine ⟨congrArg (·.2.2) (s.run_recorded os {} w []), ?_, ?_, ?_⟩
  · intro call hcall run hrun command hcommand
    exact (call.mem_runs hrun hcommand).imp_right fun ⟨hchange, hnonempty⟩ =>
      ⟨hchange, Call.wellFormed_groups (hnormal call hcall) hnonempty⟩
  · intro call hcall g hg
    exact Call.words_eq_unsetText_iff (hnormal call hcall) hg
  · exact exists_congr fun call => and_congr_right fun hcall =>
      Call.exists_unset_iff (hnormal call hcall)

/-- A hyphen that is applied is a parameter that is unset, and it is given to the host as the only word of an
option, in whichever way the words behind the discipline are taken for options. -/
theorem hyphen_reaches_host :
    let n : Identity := ⟨"4026531840", by decide⟩
    let s : Shaper Unit := ⟨{}, fun _ w => (.ok n, w), fun _ _ w => (.ok (), w)⟩
    Param.ofText "-" = .unset ∧
      (s.recorded.run [.apply 1 .latency "-"] ({}, (), [])).2.2 = [⟨1, [s.builder.replace,
        ["tc", "qdisc", "change", "dev", "eth0", "root", "handle", "1:", "netem"] ++ ["delay", "-"]]⟩] ∧
      ∀ groups : List OptionGroup, groups.flatMap (·.line) = ["delay", "-"] →
        ∃ g ∈ groups, g.words = [Param.unsetText] := by
  refine ⟨by decide, by decide, ?_⟩
  intro groups h
  cases groups with
  | nil => cases h
  | cons g gs =>
      have hwords : g.words ++ gs.flatMap (·.line) = ["-"] := List.tail_eq_of_cons_eq h
      rcases List.append_eq_singleton_iff.mp hwords with ⟨-, hrest⟩ | ⟨hg, -⟩
      -- the hyphen is no keyword
      · cases gs with
        | nil => cases hrest
        | cons g' gs =>
            have hkeyword : g'.dimension.option = "-" := List.head_eq_of_cons_eq hrest
            cases hd : g'.dimension <;> rw [hd] at hkeyword <;> exact absurd hkeyword (by decide)
      · exact ⟨g, List.mem_cons_self, hg⟩

end TrafficShaping
