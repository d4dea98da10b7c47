import TrafficShaping.Proofs.Operations
import TrafficShaping.Proofs.Words

/-!
# The discipline at the root of a namespace

What the kernel holds for a namespace, as far as shaping goes: the options of the `netem` discipline at the
root of its device. A `replace` or `change` command sets them to exactly those that it lists. On the command
line an option is a keyword and the words up to the next keyword, so that a value which itself contains a
keyword is read as two options, and the later of two options with one keyword counts.

The host below obeys such commands and nothing else. It is told in advance which of the commands that it is
given will fail: the first one that does ends the sequence, and has no effect, while those before it have had
theirs. That is all that can go wrong, since every process stays where it is.
-/

namespace TrafficShaping

/-- The words of each option of a discipline; none for an option that is not set. -/
structure Netem where
  delay : Option (List String) := none
  loss : Option (List String) := none
deriving DecidableEq

/-- The dimension whose keyword a word is. -/
def Dimension.ofOption? (word : String) : Option Dimension :=
  [latency, packetLoss].find? (·.option == word)

@[simp] theorem Dimension.ofOption?_option (d : Dimension) : ofOption? d.option = some d := by
  cases d <;> decide

namespace Netem

def get (q : Netem) : Dimension → Option (List String)
  | .latency => q.delay
  | .packetLoss => q.loss

def set (q : Netem) (d : Dimension) (words : Option (List String)) : Netem :=
  match d with
  | .latency => { q with delay := words }
  | .packetLoss => { q with loss := words }

/-- Reads one more word of a command line: a keyword begins an option, and any other word belongs to the
option that was begun last. -/
def readWord (r : Netem × Option Dimension) (word : String) : Netem × Option Dimension :=
  match Dimension.ofOption? word, r.2 with
  | some d, _ => (r.1.set d (some []), some d)
  | none, some d => (r.1.set d ((r.1.get d).map (· ++ [word])), some d)
  | none, none => r

/-- The options that words list. -/
def ofWords (words : List String) : Netem := (words.foldl readWord ({}, none)).1

/-- What a command makes of a discipline. -/
def obey (q : Netem) : Command → Netem
  | _ :: "qdisc" :: verb :: "dev" :: _ :: "root" :: "handle" :: _ :: "netem" :: words =>
    if verb = "replace" ∨ verb = "change" then ofWords words else q
  | _ => q

@[simp] theorem get_set_self (q : Netem) (d : Dimension) (words : Option (List String)) :
    (q.set d words).get d = words := by
  cases d <;> rfl

theorem get_set (q : Netem) (d d' : Dimension) (words : Option (List String)) :
    (q.set d words).get d' = if d' = d then words else q.get d' := by
  cases d <;> cases d' <;> rfl

@[simp] theorem set_set (q : Netem) (d : Dimension) (words words' : Option (List String)) :
    (q.set d words).set d words' = q.set d words' := by
  cases d <;> rfl

/-- There are only two options. -/
theorem set_eq_set_set_other (q : Netem) (d : Dimension) (words : Option (List String)) :
    q.set d words = (set {} d words).set d.other (q.get d.other) := by
  cases d <;> rfl

theorem obey_replace (q : Netem) (b : CommandBuilder) : q.obey b.replace = {} := rfl

theorem obey_change (q : Netem) (b : CommandBuilder) (d : Dimension) (value : String)
    (other : Param) : q.obey (b.change d value other) =
      ofWords (CommandBuilder.optionWords d value ++
        other.value?.elim [] (CommandBuilder.optionWords d.other)) := by
  rw [CommandBuilder.change, List.append_assoc]
  rfl

/-! ## Reading options

A sequence of words without a keyword goes to the option that was begun last, as it is. In the other
direction, whatever the words are, no keyword ever ends up inside an option. -/

theorem foldl_readWord {words : List String} (hwords : ∀ w ∈ words, Dimension.ofOption? w = none)
    (q : Netem) (d : Dimension) (before : List String) :
    words.foldl readWord (q.set d (some before), some d) =
      (q.set d (some (before ++ words)), some d) := by
  induction words generalizing before with
  | nil => rw [List.append_nil]; rfl
  | cons w ws ih =>
      have hw : readWord (q.set d (some before), some d) w =
          (q.set d (some (before ++ [w])), some d) := by
        rw [readWord, hwords w List.mem_cons_self]
        simp
      rw [List.foldl_cons, hw, ih fun w hw => hwords w (List.mem_cons_of_mem _ hw),
        List.append_assoc]
      rfl

theorem foldl_readWord_option {value : String}
    (hvalue : ∀ w ∈ Text.words value, Dimension.ofOption? w = none) (r : Netem × Option Dimension)
    (d : Dimension) : (CommandBuilder.optionWords d value).foldl readWord r =
      (r.1.set d (some (Text.words value)), some d) := by
  have hkeyword : readWord r d.option = (r.1.set d (some []), some d) := by
    rw [readWord, Dimension.ofOption?_option]
  rw [CommandBuilder.optionWords, List.foldl_cons, hkeyword]
  exact foldl_readWord hvalue r.1 d []

/-- No option contains a keyword. -/
def Plain (q : Netem) : Prop :=
  ∀ d words, q.get d = some words → ∀ w ∈ words, Dimension.ofOption? w = none

theorem plain_readWord {r : Netem × Option Dimension} (h : r.1.Plain) (word : String) :
    (readWord r word).1.Plain := by
  rw [readWord]
  split
  · next d _ _ =>
      intro d' words hwords w hw
      rw [get_set] at hwords
      split at hwords
      · obtain rfl := Option.some.inj hwords
        cases hw
      · exact h d' words hwords w hw
  · next d hword _ =>
      intro d' words hwords w hw
      rw [get_set] at hwords
      split at hwords
      · obtain ⟨before, hbefore, rfl⟩ := Option.map_eq_some_iff.mp hwords
        rcases List.mem_append.mp hw with hw | hw
        · exact h d before hbefore w hw
        · rw [List.mem_singleton.mp hw]
          exact hword
      · exact h d' words hwords w hw
  · exact h

theorem plain_ofWords (words : List String) : (ofWords words).Plain := by
  have hfold : ∀ r : Netem × Option Dimension, r.1.Plain → (words.foldl readWord r).1.Plain := by
    induction words with
    | nil => exact fun _ h => h
    | cons w ws ih => exact fun r h => ih _ (plain_readWord h w)
  refine hfold ({}, none) ?_
  intro d words h
  cases d <;> cases h

/-- An option that was begun stays set. -/
theorem isSome_get_foldl_readWord {r : Netem × Option Dimension} {d : Dimension}
    (h : (r.1.get d).isSome) (words : List String) : ((words.foldl readWord r).1.get d).isSome := by
  induction words generalizing r with
  | nil => exact h
  | cons w ws ih =>
      refine ih ?_
      rw [readWord]
      split
      · rw [get_set]
        split <;> simp [h]
      · next d' _ _ =>
          rw [get_set]
          split
          · next hd => rw [← hd, Option.isSome_map]; exact h
          · exact h
      · exact h

theorem isSome_get_ofWords_option (d : Dimension) (value : String) (more : List String) :
    ((ofWords (CommandBuilder.optionWords d value ++ more)).get d).isSome := by
  have hbegun : ((readWord ({}, none) d.option).1.get d).isSome := by
    rw [readWord, Dimension.ofOption?_option]
    simp
  exact isSome_get_foldl_readWord hbegun (Text.words value ++ more)

/-- Values without keywords are read as the options that were written, one for each value. -/
theorem ofWords_change {value : String} {other : Option String}
    (hvalue : ∀ w ∈ Text.words value, Dimension.ofOption? w = none)
    (hother : ∀ v, other = some v → ∀ w ∈ Text.words v, Dimension.ofOption? w = none)
    (d : Dimension) :
    ofWords (CommandBuilder.optionWords d value ++
        other.elim [] (CommandBuilder.optionWords d.other)) =
      (set {} d (some (Text.words value))).set d.other (other.map Text.words) := by
  rw [ofWords, List.foldl_append, foldl_readWord_option hvalue]
  cases other with
  | none => cases d <;> rfl
  | some v =>
      rw [Option.elim_some, foldl_readWord_option (hother v rfl)]
      rfl

end Netem

/-! ## The host -/

/-- The state of a host that obeys: the options in every namespace, how many commands it was given, and how
many of them took effect. -/
structure NetemHost where
  options : Identity → Netem := fun _ => {}
  given : Nat := 0
  effects : Nat := 0

namespace NetemHost

/-- The options in every namespace, after those in one of them were set. -/
def optionsWith (h : NetemHost) (n : Identity) (q : Netem) (m : Identity) : Netem :=
  if m = n then q else h.options m

/-- Lets a command take effect in a namespace. -/
def obey (h : NetemHost) (n : Identity) (command : Command) : NetemHost where
  options := h.optionsWith n ((h.options n).obey command)
  given := h.given + 1
  effects := h.effects + 1

theorem optionsWith_self (h : NetemHost) (n : Identity) (q : Netem) :
    h.optionsWith n q n = q := if_pos rfl

theorem optionsWith_of_ne {n m : Identity} (hne : m ≠ n) (h : NetemHost) (q : Netem) :
    h.optionsWith n q m = h.options m := if_neg hne

theorem options_obey (h : NetemHost) (n : Identity) (command : Command) :
    (h.obey n command).options = h.optionsWith n ((h.options n).obey command) := rfl

theorem options_obey_obey (h : NetemHost) (n : Identity) (first second : Command) :
    ((h.obey n first).obey n second).options =
      h.optionsWith n (((h.options n).obey first).obey second) := by
  funext m
  rw [options_obey]
  by_cases hm : m = n
  · rw [hm, optionsWith_self, optionsWith_self, options_obey, optionsWith_self]
  · rw [optionsWith_of_ne hm, optionsWith_of_ne hm, options_obey, optionsWith_of_ne hm]

/-- Takes commands one after the other, up to the first one that is fated to fail. -/
def execute (fate : Nat → Option ShapingError) (n : Identity) :
    List Command → NetemHost → Except ShapingError Unit × NetemHost
  | [], h => (.ok (), h)
  | command :: commands, h =>
    match fate h.given with
    | some e => (.error e, { h with given := h.given + 1 })
    | none => execute fate n commands (h.obey n command)

/-- The host on which every process has its place, and commands meet their fate by number. -/
def host (place : Pid → Identity) (fate : Nat → Option ShapingError) : Host NetemHost where
  resolve pid h := (.ok (place pid), h)
  run pid commands h := execute fate (place pid) commands h

end NetemHost

end TrafficShaping
