import TrafficShaping.CommandLine
import Mathlib.Data.List.Nodup

/-!
# Which settings a command line makes

The reader takes words one by one and keeps a value that came as a word of its own until the next flag comes. So
it is not a loop over flags. What it accepts is nevertheless a list of flags with their values, because a value
that is pending may as well have been taken (`take_of_pending`): to take it late changes which fault is found
first, but not whether there is one.

Values for settings are taken by writing over the settings there are. Each of them is read without a look at
those, and no setting has two of them, since the environment is asked only for what was not given. So nothing is
ever written over but a default, and the outcome can be told setting by setting.
-/

namespace TrafficShaping

theorem map_eq_ok_iff {ε α β : Type} {x : Except ε α} {f : α → β} {b : β} :
    x.map f = .ok b ↔ ∃ a, x = .ok a ∧ f a = b := by
  cases x with
  | error e => simp [Except.map]
  | ok a => simp [Except.map]

theorem bind_eq_ok_iff {ε α β : Type} {x : Except ε α} {f : α → Except ε β} {b : β} :
    x.bind f = .ok b ↔ ∃ a, x = .ok a ∧ f a = .ok b := by
  cases x with
  | error e => simp [Except.bind]
  | ok a => simp [Except.bind]

variable {name other : Setting} {value : String} {s t u : Settings}

/-! ## One setting -/

namespace Settings

/-- Whether two groups of settings agree on one. -/
def Same (name : Setting) (s t : Settings) : Prop :=
  match name with
  | .socketPath => s.socketPath = t.socketPath
  | .listen => s.listen = t.listen
  | .interface => s.interface = t.interface
  | .program => s.program = t.program
  | .influxUrl => s.influxUrl = t.influxUrl
  | .influxDatabase => s.influxDatabase = t.influxDatabase
  | .metricsTimeout => s.metricsTimeout = t.metricsTimeout
  | .logLevel => s.logLevel = t.logLevel

/-- Whether a setting is what a value is read as. -/
def Reads (name : Setting) (value : String) (s : Settings) : Prop :=
  ∃ t, ({} : Settings).set name value = .ok t ∧ s.Same name t

theorem Same.symm (h : s.Same name t) : t.Same name s := by
  cases name <;> exact Eq.symm h

theorem Same.trans (h : s.Same name t) (h' : t.Same name u) : s.Same name u := by
  cases name <;> exact Eq.trans h h'

theorem same_refl (name : Setting) (s : Settings) : s.Same name s := by
  cases name <;> rfl

theorem ext_same (h : ∀ name, s.Same name t) : s = t := by
  obtain ⟨_, _, _, _, _, _, _, _⟩ := s
  obtain ⟨_, _, _, _, _, _, _, _⟩ := t
  simp only [Settings.mk.injEq]
  exact ⟨h .socketPath, h .listen, h .interface, h .program, h .influxUrl, h .influxDatabase,
    h .metricsTimeout, h .logLevel⟩

/-- Settings with one of them as it is in others. -/
def copy (s : Settings) (name : Setting) (t : Settings) : Settings :=
  match name with
  | .socketPath => { s with socketPath := t.socketPath }
  | .listen => { s with listen := t.listen }
  | .interface => { s with interface := t.interface }
  | .program => { s with program := t.program }
  | .influxUrl => { s with influxUrl := t.influxUrl }
  | .influxDatabase => { s with influxDatabase := t.influxDatabase }
  | .metricsTimeout => { s with metricsTimeout := t.metricsTimeout }
  | .logLevel => { s with logLevel := t.logLevel }

theorem same_copy (s : Settings) (name : Setting) (t : Settings) : (s.copy name t).Same name t := by
  cases name <;> rfl

theorem same_copy_of_ne (s t : Settings) (h : other ≠ name) : (s.copy name t).Same other s := by
  cases name <;> cases other <;> first | exact absurd rfl h | rfl

/-- A value is read without a look at the settings that it changes. -/
theorem set_eq (s : Settings) (name : Setting) (value : String) :
    s.set name value = (({} : Settings).set name value).map (s.copy name) := by
  cases name <;> simp only [set]
  case socketPath | listen | metricsTimeout => split <;> rfl
  all_goals rfl

/-- To take a value is to read it, and to leave every other setting as it is. -/
theorem set_eq_ok_iff : s.set name value = .ok t ↔
    t.Reads name value ∧ ∀ other, other ≠ name → t.Same other s := by
  rw [set_eq, map_eq_ok_iff]
  constructor
  · rintro ⟨u, hu, rfl⟩
    exact ⟨⟨u, hu, same_copy s name u⟩, fun other hne => same_copy_of_ne s u hne⟩
  · rintro ⟨⟨u, hu, htu⟩, hother⟩
    refine ⟨u, hu, ext_same fun other => ?_⟩
    by_cases hname : other = name
    · exact hname ▸ (same_copy s name u).trans htu.symm
    · exact (same_copy_of_ne s u hname).trans (hother other hname).symm

theorem Reads.of_same (h : t.Reads name value) (hsame : u.Same name t) : u.Reads name value := by
  obtain ⟨v, hv, htv⟩ := h
  exact ⟨v, hv, hsame.trans htv⟩

def setAll (s : Settings) : List (Setting × String) → Except UsageError Settings
  | [] => .ok s
  | (name, value) :: rest => (s.set name value).bind (·.setAll rest)

theorem setAll_append (s : Settings) (as bs : List (Setting × String)) :
    s.setAll (as ++ bs) = (s.setAll as).bind (·.setAll bs) := by
  induction as generalizing s with
  | nil => rfl
  | cons a as ih =>
      show (s.set a.1 a.2).bind _ = ((s.set a.1 a.2).bind _).bind _
      cases s.set a.1 a.2 with
      | error e => rfl
      | ok t => exact ih t

theorem elim_same_congr (h : u.Same name s) (given : Option String) :
    given.elim (t.Same name u) (t.Reads name) ↔ given.elim (t.Same name s) (t.Reads name) := by
  cases given with
  | none => exact ⟨fun hsame => hsame.trans h, fun hsame => hsame.trans h.symm⟩
  | some value => rfl

/-- Where every setting has one value at most, each that has one is what its value is read as, and all others
stay as they are. -/
theorem setAll_eq_ok_iff {as : List (Setting × String)} (h : (as.map (·.1)).Nodup) :
    s.setAll as = .ok t ↔ ∀ name, (as.lookup name).elim (t.Same name s) (t.Reads name) := by
  induction as generalizing s with
  | nil =>
      constructor
      · intro hok name
        rw [Except.ok.inj hok]
        exact same_refl name t
      · intro hsame
        rw [ext_same (s := t) (t := s) hsame]
        rfl
  | cons a as ih =>
      obtain ⟨name, value⟩ := a
      obtain ⟨hname, hnodup⟩ := List.nodup_cons.mp h
      have hnone : as.lookup name = none := List.lookup_eq_none_iff.mpr fun b hb =>
        bne_iff_ne.mpr fun heq => hname (List.mem_map.mpr ⟨b, hb, heq.symm⟩)
      have hcons {other : Setting} (hne : other ≠ name) :
          ((name, value) :: as).lookup other = as.lookup other := by
        rw [List.lookup_cons, beq_eq_false_iff_ne.mpr hne]
      have hself : ((name, value) :: as).lookup name = some value := by
        rw [List.lookup_cons, beq_self_eq_true]
      rw [setAll, bind_eq_ok_iff]
      constructor
      · rintro ⟨u, hset, hrest⟩ other
        obtain ⟨hread, hframe⟩ := set_eq_ok_iff.mp hset
        have hrest := (ih hnodup).mp hrest other
        by_cases hother : other = name
        · subst hother
          rw [hnone] at hrest
          rw [hself]
          exact hread.of_same hrest
        · rw [hcons hother]
          exact (elim_same_congr (hframe other hother) _).mp hrest
      · intro hall
        have hread := hall name
        rw [hself] at hread
        refine ⟨s.copy name t, set_eq_ok_iff.mpr ⟨hread.of_same (same_copy s name t), fun other hother =>
          same_copy_of_ne s t hother⟩, (ih hnodup).mpr fun other => ?_⟩
        by_cases hother : other = name
        · subst hother
          rw [hnone]
          exact (same_copy s other t).symm
        · have hrest := hall other
          rw [hcons hother] at hrest
          exact (elim_same_congr (same_copy_of_ne s t hother) _).mpr hrest

end Settings

theorem Setting.ofFlag?_flagName (name : Setting) : ofFlag? name.flagName = some name := by
  cases name <;> decide

theorem Setting.ofFlag?_eq_some_iff {text : String} : ofFlag? text = some name ↔ text = name.flagName := by
  constructor
  · intro h
    have hname : (name.flagName == text) = true :=
      List.find?_some (p := fun s : Setting => s.flagName == text) h
    exact (beq_iff_eq.mp hname).symm
  · rintro rfl
    exact ofFlag?_flagName name

namespace CommandLine

/-! ## Words -/

theorem Word.of_flag (name : Setting) : Word.of ("--" ++ name.flagName) = .long name.flagName none := by
  cases name <;> rfl

theorem Word.of_flag_value (name : Setting) (value : String) :
    Word.of ("--" ++ name.flagName ++ "=" ++ value) = .long name.flagName (some value) := by
  have hplain : ∀ c ∈ name.flagName.toList, decide (c ≠ '=') = true := by
    cases name <;> exact List.all_eq_true.mp rfl
  have hlist : ("--" ++ name.flagName ++ "=" ++ value).toList =
      '-' :: '-' :: (name.flagName.toList ++ '=' :: value.toList) := by
    simp
  have htake : (name.flagName.toList ++ '=' :: value.toList).takeWhile (· ≠ '=') = name.flagName.toList := by
    rw [List.takeWhile_append_of_pos hplain, List.takeWhile_cons_of_neg (by decide), List.append_nil]
  rw [Word.of, hlist]
  simp only [htake, List.drop_left, List.tail?_cons, Option.map_some, String.ofList_toList]

/-- What is before an equals sign, the sign, and what is behind it. -/
theorem takeWhile_append_tail? (cs : List Char) :
    cs.takeWhile (· ≠ '=') ++
    (cs.drop (cs.takeWhile (· ≠ '=')).length).tail?.elim [] ('=' :: ·) = cs := by
  induction cs with
  | nil => rfl
  | cons c cs ih =>
      by_cases hc : c = '='
      · subst hc
        rfl
      · rw [List.takeWhile_cons_of_pos (by simpa using hc), List.length_cons, List.drop_succ_cons,
          List.cons_append, ih]

/-- The words that are read as a name and a value. -/
theorem Word.eq_of_long {word text : String} {value : Option String} (h : Word.of word = .long text value) :
    word = "--" ++ text ++ value.elim "" ("=" ++ ·) := by
  rw [Word.of] at h
  split at h
  · next cs hcs =>
      obtain ⟨rfl, rfl⟩ := Word.long.inj h
      have hcut := takeWhile_append_tail? cs
      rw [← String.toList_inj, hcs]
      generalize (cs.drop (cs.takeWhile (· ≠ '=')).length).tail? = behind at hcut ⊢
      generalize cs.takeWhile (· ≠ '=') = front at hcut ⊢
      cases behind <;> simp [← hcut]
  · cases h
  · cases h

/-! ## Flags -/

/-- A flag with its value, which comes in the word of the flag or as a word of its own. -/
structure Flag where
  name : Setting
  value : String
  apart : Bool

namespace Flag

def words (f : Flag) : List String :=
  if f.apart then ["--" ++ f.name.flagName, f.value] else ["--" ++ f.name.flagName ++ "=" ++ f.value]

/-- Whether the value is not taken for a flag. -/
def Fits (f : Flag) : Prop := f.apart → Word.of f.value = .plain

end Flag

namespace Progress

variable {p q r : Progress} {word : String} {rest : List String}

def giveAll (p : Progress) : List Flag → Except UsageError Progress
  | [] => .ok p
  | f :: fs => (p.give f.name f.value).bind (·.giveAll fs)

theorem pending_of_give (h : p.give name value = .ok q) : q.pending = none := by
  rw [give] at h
  split at h
  · cases h
  · obtain ⟨t, -, rfl⟩ := map_eq_ok_iff.mp h
    rfl

theorem takeAll_cons (h : word ≠ "--") : p.takeAll (word :: rest) = (p.take word).bind (·.takeAll rest) := by
  rw [takeAll]
  exact h

theorem settle_of_pending (h : p.pending = none) : p.settle = .ok p := by
  rw [settle, h]

theorem stop_ne_ok {wanted : UsageError} : p.stop wanted ≠ .ok q := fun h => by
  obtain ⟨_, -, h⟩ := bind_eq_ok_iff.mp h
  cases h

/-- The words that a command line in order goes on with: a flag with its value, a flag whose value is still to
come, and such a value. -/
theorem take_eq_ok_iff : p.take word = .ok q ↔
    (∃ name value, word = "--" ++ name.flagName ++ "=" ++ value ∧
      ∃ p', p.settle = .ok p' ∧ p'.give name value = .ok q) ∨
    (∃ name, word = "--" ++ name.flagName ∧
      ∃ p', p.settle = .ok p' ∧ { p' with pending := some (name, none) } = q) ∨
    ∃ name, p.pending = some (name, none) ∧ Word.of word = .plain ∧
      { p with pending := some (name, some word) } = q := by
  constructor
  · intro h
    rw [take] at h
    split at h
    · next text value hof =>
        split at h
        · next name value hname =>
            refine .inl ⟨name, value, ?_, bind_eq_ok_iff.mp h⟩
            rw [Word.eq_of_long hof, Setting.ofFlag?_eq_some_iff.mp hname]
            exact String.append_assoc.symm
        · next name hname =>
            refine .inr (.inl ⟨name, ?_, map_eq_ok_iff.mp h⟩)
            rw [Word.eq_of_long hof, Setting.ofFlag?_eq_some_iff.mp hname]
            exact String.append_empty
        · cases h
        · split at h
          · exact absurd h stop_ne_ok
          · split at h
            · exact absurd h stop_ne_ok
            · cases h
    · exact absurd h stop_ne_ok
    · exact absurd h stop_ne_ok
    · cases h
    · next hof =>
        split at h
        · next name hpending => exact .inr (.inr ⟨name, hpending, hof, Except.ok.inj h⟩)
        · cases h
  · rintro (⟨name, value, rfl, hgive⟩ | ⟨name, rfl, hsettle⟩ | ⟨name, hpending, hof, rfl⟩)
    · rw [take, Word.of_flag_value]
      simp only [Setting.ofFlag?_flagName]
      exact bind_eq_ok_iff.mpr hgive
    · rw [take, Word.of_flag]
      simp only [Setting.ofFlag?_flagName]
      exact map_eq_ok_iff.mpr hsettle
    · rw [take, hof]
      simp only [hpending]

/-- A value that is pending is as good as taken, as far as a command line is in order. -/
theorem take_of_pending (h : p.pending = some (name, some value)) : p.take word = .ok r ↔
    ∃ p', p.give name value = .ok p' ∧ p'.take word = .ok r := by
  have hsettle : p.settle = p.give name value := by rw [settle, h]
  simp only [take_eq_ok_iff, hsettle, h]
  constructor
  · rintro (⟨name, value, hword, p', hgive, hr⟩ | ⟨name, hword, p', hgive, hr⟩ | ⟨name, hpending, -⟩)
    · exact ⟨p', hgive, .inl ⟨name, value, hword, p', settle_of_pending (pending_of_give hgive), hr⟩⟩
    · exact ⟨p', hgive, .inr (.inl ⟨name, hword, p', settle_of_pending (pending_of_give hgive), hr⟩)⟩
    · cases hpending
  · rintro ⟨p', hgive, hr⟩
    have hnone : p'.pending = none := pending_of_give hgive
    simp only [settle_of_pending hnone, hnone] at hr
    rcases hr with
      ⟨name, value, hword, p₁, hp₁, hr⟩ | ⟨name, hword, p₁, hp₁, hr⟩ | ⟨name, hpending, -⟩
    · exact .inl ⟨name, value, hword, p', hgive, Except.ok.inj hp₁ ▸ hr⟩
    · exact .inr (.inl ⟨name, hword, p', hgive, Except.ok.inj hp₁ ▸ hr⟩)
    · cases hpending

theorem takeAll_of_pending (h : p.pending = some (name, some value)) : p.takeAll rest = .ok r ↔
    ∃ p', p.give name value = .ok p' ∧ p'.takeAll rest = .ok r := by
  have hsettle : p.settle = .ok r ↔ ∃ p', p.give name value = .ok p' ∧ p'.settle = .ok r := by
    have hgiven : p.settle = p.give name value := by rw [settle, h]
    rw [hgiven]
    constructor
    · exact fun hgive => ⟨r, hgive, settle_of_pending (pending_of_give hgive)⟩
    · rintro ⟨p', hgive, hsettle⟩
      rwa [settle_of_pending (pending_of_give hgive), ← hgive] at hsettle
  rcases rest with _ | ⟨word, rest⟩
  · exact hsettle
  · by_cases hword : word = "--"
    · subst hword
      cases rest with
      | nil => exact hsettle
      | cons word rest => simp [takeAll]
    · simp only [takeAll_cons hword, bind_eq_ok_iff, take_of_pending h]
      constructor
      · rintro ⟨p₂, ⟨p₁, hgive, htake⟩, hrest⟩
        exact ⟨p₁, hgive, p₂, htake, hrest⟩
      · rintro ⟨p₁, hgive, p₂, htake, hrest⟩
        exact ⟨p₂, ⟨p₁, hgive, htake⟩, hrest⟩

theorem take_flag (hp : p.pending = none) : p.take ("--" ++ name.flagName) =
    .ok { p with pending := some (name, none) } := by
  rw [take, Word.of_flag]
  simp only [Setting.ofFlag?_flagName, settle_of_pending hp]
  rfl

/-- A flag and its value are taken as one. -/
theorem takeAll_flag {f : Flag} (hf : f.Fits) (hp : p.pending = none) : p.takeAll (f.words ++ rest) = .ok q ↔
    ∃ p', p.give f.name f.value = .ok p' ∧ p'.takeAll rest = .ok q := by
  obtain ⟨name, value, apart⟩ := f
  cases apart with
  | true =>
      have hvalue : Word.of value = .plain := hf rfl
      have hname : "--" ++ name.flagName ≠ "--" := by cases name <;> decide
      have hplain : value ≠ "--" := fun heq => by rw [heq] at hvalue; cases hvalue
      rw [show Flag.words ⟨name, value, true⟩ = ["--" ++ name.flagName, value] from rfl, List.cons_append,
        takeAll_cons hname, take_flag hp]
      show takeAll _ (value :: rest) = _ ↔ _
      rw [takeAll_cons hplain, take, hvalue]
      exact takeAll_of_pending rfl
  | false =>
      have hword : "--" ++ name.flagName ++ "=" ++ value ≠ "--" := fun heq => by
        have hlist := congrArg String.toList heq
        simp at hlist
      rw [show Flag.words ⟨name, value, false⟩ = ["--" ++ name.flagName ++ "=" ++ value] from rfl,
        List.cons_append, takeAll_cons hword, take, Word.of_flag_value]
      simp only [Setting.ofFlag?_flagName, settle_of_pending hp]
      exact bind_eq_ok_iff

/-- Where a word is not the separator, a flag with its value has to be. -/
theorem exists_flag (hp : p.pending = none) (hword : word ≠ "--") (h : p.takeAll (word :: rest) = .ok q) :
    ∃ f : Flag, f.Fits ∧ ∃ rest', word :: rest = f.words ++ rest' := by
  rw [takeAll_cons hword, bind_eq_ok_iff] at h
  obtain ⟨p₁, htake, hrest⟩ := h
  rcases take_eq_ok_iff.mp htake with
    ⟨name, value, rfl, -⟩ | ⟨name, rfl, p', -, rfl⟩ | ⟨name, hpending, -⟩
  · exact ⟨⟨name, value, false⟩, fun h => (Bool.false_ne_true h).elim, rest, rfl⟩
  · -- the flag waits for its value, so the next word has to be one
    have hmissing : settle { p' with pending := some (name, none) } = .error (.missingValue name) := rfl
    rcases rest with _ | ⟨value, rest⟩
    · cases hrest
    · by_cases hvalue : value = "--"
      · subst hvalue
        cases rest <;> cases hrest
      · rw [takeAll_cons hvalue, bind_eq_ok_iff] at hrest
        obtain ⟨p₂, htake₂, -⟩ := hrest
        rcases take_eq_ok_iff.mp htake₂ with
          ⟨_, _, _, _, hsettle, _⟩ | ⟨_, _, _, hsettle, _⟩ | ⟨_, _, hplain, _⟩
        · cases hmissing.symm.trans hsettle
        · cases hmissing.symm.trans hsettle
        · exact ⟨⟨name, value, true⟩, fun _ => hplain, rest, rfl⟩
  · cases hp.symm.trans hpending

theorem takeAll_flags {flags : List Flag} (hflags : ∀ f ∈ flags, f.Fits) (hp : p.pending = none)
    (hrest : rest ∈ [[], ["--"]]) :
    p.takeAll (flags.flatMap Flag.words ++ rest) = .ok q ↔ p.giveAll flags = .ok q := by
  induction flags generalizing p with
  | nil =>
      simp only [List.mem_cons, List.not_mem_nil, or_false] at hrest
      rcases hrest with rfl | rfl
      all_goals
        show p.settle = .ok q ↔ Except.ok p = .ok q
        rw [settle_of_pending hp]
  | cons f flags ih =>
      obtain ⟨hf, hflags⟩ := List.forall_mem_cons.mp hflags
      rw [List.flatMap_cons, List.append_assoc, takeAll_flag hf hp, giveAll, bind_eq_ok_iff]
      exact exists_congr fun p' => and_congr_right fun hgive => ih hflags (pending_of_give hgive)

/-- A command line is in order exactly if it is made of flags with their values, with or without a separator
behind them. -/
theorem takeAll_eq_ok_iff {words : List String} (hp : p.pending = none) : p.takeAll words = .ok q ↔
    ∃ flags : List Flag, ∃ rest ∈ [[], ["--"]], words = flags.flatMap Flag.words ++ rest ∧
      (∀ f ∈ flags, f.Fits) ∧ p.giveAll flags = .ok q := by
  constructor
  · intro h
    induction hn : words.length using Nat.strongRecOn generalizing words p with
    | ind n ih =>
      rcases words with _ | ⟨word, rest⟩
      · exact ⟨[], [], by simp, rfl, by simp, (settle_of_pending hp).symm.trans h⟩
      · by_cases hword : word = "--"
        · subst hword
          cases rest with
          | nil => exact ⟨[], ["--"], by simp, rfl, by simp, (settle_of_pending hp).symm.trans h⟩
          | cons word rest => cases h
        · obtain ⟨f, hf, rest', hwords⟩ := exists_flag hp hword h
          rw [hwords] at h hn
          obtain ⟨p', hgive, hrest⟩ := (takeAll_flag hf hp).mp h
          have hpos : 0 < f.words.length := by
            rw [Flag.words]
            split <;> exact Nat.succ_pos _
          obtain ⟨flags, tail, htail, rfl, hflags, hgiven⟩ :=
            ih rest'.length (by rw [← hn, List.length_append]; omega) (pending_of_give hgive) hrest rfl
          refine ⟨f :: flags, tail, htail, ?_, List.forall_mem_cons.mpr ⟨hf, hflags⟩, ?_⟩
          · rw [hwords, List.flatMap_cons, List.append_assoc]
          · exact bind_eq_ok_iff.mpr ⟨p', hgive, hgiven⟩
  · rintro ⟨flags, rest, hrest, rfl, hflags, hgiven⟩
    exact (takeAll_flags hflags hp hrest).mpr hgiven

/-! ## What was given, and the environment -/

theorem give_eq_ok_iff : p.give name value = .ok q ↔
    name ∉ p.given ∧ ∃ t, p.settings.set name value = .ok t ∧ ⟨t, name :: p.given, none⟩ = q := by
  rw [give]
  split
  · next hgiven => simp [hgiven]
  · next hnot => rw [map_eq_ok_iff, and_iff_right hnot]

theorem giveAll_eq_ok_iff {flags : List Flag} (hp : p.pending = none) : p.giveAll flags = .ok q ↔
    (flags.map (·.name)).Nodup ∧ (∀ f ∈ flags, f.name ∉ p.given) ∧
      ∃ t, p.settings.setAll (flags.map fun f => (f.name, f.value)) = .ok t ∧
        ⟨t, (flags.map (·.name)).reverse ++ p.given, none⟩ = q := by
  induction flags generalizing p with
  | nil =>
      obtain ⟨settings, given, pending⟩ := p
      obtain rfl : pending = none := hp
      simp [giveAll, Settings.setAll]
  | cons f flags ih =>
      rw [giveAll, bind_eq_ok_iff]
      constructor
      · rintro ⟨p', hgive, hrest⟩
        obtain ⟨hnot, u, hset, rfl⟩ := give_eq_ok_iff.mp hgive
        obtain ⟨hnodup, hfresh, t, hall, rfl⟩ := (ih rfl).mp hrest
        have hname : f.name ∉ flags.map (·.name) := fun hmem => by
          obtain ⟨g, hg, heq⟩ := List.mem_map.mp hmem
          exact hfresh g hg (heq ▸ List.mem_cons_self)
        refine ⟨List.nodup_cons.mpr ⟨hname, hnodup⟩, List.forall_mem_cons.mpr ⟨hnot, ?_⟩, t,
          bind_eq_ok_iff.mpr ⟨u, hset, hall⟩, by simp⟩
        exact fun g hg hmem => hfresh g hg (List.mem_cons_of_mem _ hmem)
      · rintro ⟨hnodup, hfresh, t, hall, rfl⟩
        obtain ⟨hname, hnodup⟩ := List.nodup_cons.mp hnodup
        obtain ⟨hnot, hfresh⟩ := List.forall_mem_cons.mp hfresh
        obtain ⟨u, hset, hall⟩ := bind_eq_ok_iff.mp hall
        refine ⟨⟨u, f.name :: p.given, none⟩, give_eq_ok_iff.mpr ⟨hnot, u, hset, rfl⟩,
          (ih rfl).mpr ⟨hnodup, fun g hg hmem => ?_, t, hall, by simp⟩⟩
        rcases List.mem_cons.mp hmem with heq | hmem
        · exact hname (List.mem_map.mpr ⟨g, hg, heq⟩)
        · exact hfresh g hg hmem

/-- The values in the environment for what was not given. -/
def missing (given : List Setting) (environment : String → Option String) : List (Setting × String) :=
  Setting.all.filterMap fun s => (if s ∈ given then none else environment s.variableName).map (s, ·)

theorem fill_eq (p : Progress) (environment : String → Option String) :
    p.fill environment = p.settings.setAll (missing p.given environment) := by
  rw [fill, missing]
  generalize p.settings = settings
  generalize Setting.all = names
  induction names generalizing settings with
  | nil => rfl
  | cons name names ih =>
      rw [List.foldlM_cons, List.filterMap_cons]
      split
      · exact ih settings
      · cases environment name.variableName with
        | none => exact ih settings
        | some value =>
            show (settings.set name value).bind _ = (settings.set name value).bind _
            cases settings.set name value with
            | error e => rfl
            | ok t => exact ih t

theorem lookup_filterMap (value? : Setting → Option String) (names : List Setting) (name : Setting) :
    (names.filterMap fun s => (value? s).map (s, ·)).lookup name =
      if name ∈ names then value? name else none := by
  induction names with
  | nil => rfl
  | cons other names ih =>
      rw [List.filterMap_cons]
      by_cases hother : name = other
      · subst hother
        rw [if_pos List.mem_cons_self]
        cases hvalue : value? name with
        | none =>
            rw [hvalue, ite_self] at ih
            exact ih
        | some value => exact List.lookup_cons_self
      · have hmem : name ∈ other :: names ↔ name ∈ names := by simp [hother]
        simp only [hmem]
        cases hvalue : value? other with
        | none => exact ih
        | some value =>
            show List.lookup name ((other, value) :: _) = _
            rw [List.lookup_cons, beq_eq_false_iff_ne.mpr hother]
            exact ih

theorem lookup_missing (given : List Setting) (environment : String → Option String) (name : Setting) :
    (missing given environment).lookup name =
      if name ∈ given then none else environment name.variableName := by
  rw [missing, lookup_filterMap, if_pos (by cases name <;> decide)]

theorem nodup_missing (given : List Setting) (environment : String → Option String) :
    ((missing given environment).map (·.1)).Nodup := by
  have hall : Setting.all.Nodup := by decide
  rw [missing, List.map_filterMap]
  refine hall.filterMap fun a b name ha hb => ?_
  simp only [Option.map_map, Option.mem_def, Option.map_eq_some_iff, Function.comp_apply] at ha hb
  obtain ⟨-, -, rfl⟩ := ha
  obtain ⟨-, -, rfl⟩ := hb
  rfl

theorem not_mem_of_mem_missing {given : List Setting} {environment : String → Option String}
    {a : Setting × String} (h : a ∈ missing given environment) : a.1 ∉ given := by
  obtain ⟨s, -, ha⟩ := List.mem_filterMap.mp h
  intro hmem
  split at ha
  · cases ha
  · next hnot =>
      obtain ⟨_, -, rfl⟩ := Option.map_eq_some_iff.mp ha
      exact hnot hmem

end Progress

/-- The value that counts for a setting: that of its flag, or else that of its variable. -/
def chosen (flags : List Flag) (environment : String → Option String) (name : Setting) : Option String :=
  ((flags.map fun f => (f.name, f.value)).lookup name).or (environment name.variableName)

theorem lookup_chosen {flags : List Flag} {given : List Setting}
    (hgiven : ∀ name, name ∈ given ↔ name ∈ flags.map (·.name)) (environment : String → Option String)
    (name : Setting) :
    ((flags.map fun f => (f.name, f.value)) ++ Progress.missing given environment).lookup name =
      chosen flags environment name := by
  rw [List.lookup_append, Progress.lookup_missing, chosen]
  split
  · next hmem =>
      obtain ⟨f, hf, rfl⟩ := List.mem_map.mp ((hgiven name).mp hmem)
      cases hlookup : (flags.map fun f => (f.name, f.value)).lookup f.name with
      | some value => rfl
      | none =>
          have hne := List.lookup_eq_none_iff.mp hlookup (f.name, f.value) (List.mem_map.mpr ⟨f, hf, rfl⟩)
          exact absurd rfl (bne_iff_ne.mp hne)
  · rfl

/-- A command line and an environment make settings exactly if the command line is made of flags with their
values, with or without a separator behind them, no setting is given twice, and every value that counts can be
read. Then each setting is what the value that counts for it is read as, and the default if it has none. -/
theorem read_eq_ok_iff {words : List String} {environment : String → Option String} :
    read words environment = .ok s ↔
      ∃ flags : List Flag, ∃ rest ∈ [[], ["--"]], words = flags.flatMap Flag.words ++ rest ∧
        (∀ f ∈ flags, f.Fits) ∧ (flags.map (·.name)).Nodup ∧
        ∀ name, (chosen flags environment name).elim (s.Same name {}) (s.Reads name) := by
  have hall {flags : List Flag} (hnodup : (flags.map (·.name)).Nodup) :
      let given := (flags.map (·.name)).reverse ++ ({} : Progress).given
      (({} : Settings).setAll (flags.map fun f => (f.name, f.value))).bind
          (·.setAll (Progress.missing given environment)) = .ok s ↔
        ∀ name, (chosen flags environment name).elim (s.Same name {}) (s.Reads name) := by
    intro given
    have hgiven (name : Setting) : name ∈ given ↔ name ∈ flags.map (·.name) := by simp [given]
    rw [← Settings.setAll_append, Settings.setAll_eq_ok_iff]
    · simp only [lookup_chosen hgiven]
    · rw [List.map_append, List.map_map, List.nodup_append]
      refine ⟨hnodup, Progress.nodup_missing given environment, ?_⟩
      rintro name hname _ hmissing rfl
      obtain ⟨a, ha, rfl⟩ := List.mem_map.mp hmissing
      exact Progress.not_mem_of_mem_missing ha ((hgiven a.1).mpr hname)
  rw [read, bind_eq_ok_iff]
  simp only [Progress.takeAll_eq_ok_iff (p := {}) rfl, Progress.giveAll_eq_ok_iff (p := {}) rfl]
  constructor
  · rintro ⟨p, ⟨flags, rest, hrest, hwords, hfits, hnodup, -, t, hset, rfl⟩, hfill⟩
    rw [Progress.fill_eq] at hfill
    exact ⟨flags, rest, hrest, hwords, hfits, hnodup,
      (hall hnodup).mp (bind_eq_ok_iff.mpr ⟨t, hset, hfill⟩)⟩
  · rintro ⟨flags, rest, hrest, hwords, hfits, hnodup, hchosen⟩
    obtain ⟨t, hset, hfill⟩ := bind_eq_ok_iff.mp ((hall hnodup).mpr hchosen)
    refine ⟨_, ⟨flags, rest, hrest, hwords, hfits, hnodup, ?_, t, hset, rfl⟩, ?_⟩
    · exact fun f _ => List.not_mem_nil
    · rw [Progress.fill_eq]
      exact hfill

end CommandLine

end TrafficShaping
