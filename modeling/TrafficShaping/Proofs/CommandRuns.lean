import TrafficShaping.Proofs.NamespaceLinks
import TrafficShaping.Proofs.Operations

/-!
# Which programs an operation starts

A machine may do as it likes with the programs that are started on it, so what was started cannot be read off its
state. It is written down beside the state instead, each program with its words and with what came of it.

The commands of an operation are started in order, and the first of them that fails is the last one that is
started. It is also the one that the operation tells of. So an operation that succeeds has had all of its commands
succeed, and one that could not find its process or enter the namespace has started nothing.
-/

namespace TrafficShaping

variable {σ : Type}

/-- A command that was started, and what came of it. -/
structure Launch where
  command : Command
  result : Except Cause Outcome

/-- What is told of a command: what it left behind, or that it could not be started or failed. -/
def Launch.told (s : Launch) : Except CommandError Outcome :=
  match s.result with
  | .error cause => .error (.io cause)
  | .ok outcome =>
    if outcome.status.isSuccess then .ok outcome else .error (.nonZero s.command.line outcome)

/-- A machine that writes down what is started on it. -/
def logged (start : String → List String → σ → Except Cause Outcome × σ) (program : String)
    (arguments : List String) (w : σ × List Launch) : Except Cause Outcome × σ × List Launch :=
  let r := start program arguments w.1
  (r.1, r.2, w.2 ++ [⟨program :: arguments, r.1⟩])

/-- Whether these commands were started in order and up to the first that failed, and the result tells of it. -/
inductive Follows : List Command → List Launch → Except CommandError Unit → Prop where
  | finished : Follows [] [] (.ok ())
  | failed {s : Launch} {e : CommandError} (h : s.told = .error e) (commands : List Command) :
    Follows (s.command :: commands) [s] (.error e)
  | step {s : Launch} {o : Outcome} {commands : List Command} {started : List Launch}
    {r : Except CommandError Unit} (h : s.told = .ok o) (rest : Follows commands started r) :
    Follows (s.command :: commands) (s :: started) r

namespace Follows

variable {commands : List Command} {started : List Launch} {r : Except CommandError Unit}

theorem isPrefix (h : Follows commands started r) : started.map (·.command) <+: commands := by
  induction h with
  | finished => exact List.nil_prefix
  | failed _ commands => exact ⟨commands, rfl⟩
  | step _ _ ih => exact List.cons_prefix_cons.mpr ⟨rfl, ih⟩

/-- All went well exactly if every command was started and succeeded. -/
theorem ok_iff (h : Follows commands started r) :
    r = .ok () ↔ started.map (·.command) = commands ∧ ∀ s ∈ started, ∃ o, s.told = .ok o := by
  induction h with
  | finished => simp
  | failed h => simp [h]
  | step h _ ih => simp [ih, h]

/-- What failed is the last command that was started. -/
theorem last_of_error {e : CommandError} (h : Follows commands started (.error e)) :
    ∃ s, started.getLast? = some s ∧ s.told = .error e := by
  generalize hr : Except.error e = r at h
  induction h with
  | finished => cases hr
  | failed h =>
      cases hr
      exact ⟨_, rfl, h⟩
  | @step s o commands started r h rest ih =>
      obtain ⟨last, hlast, htold⟩ := ih hr
      exact ⟨last, by rw [List.getLast?_cons, hlast]; rfl, htold⟩

end Follows

section

variable (start : String → List String → σ → Except Cause Outcome × σ)

theorem runCommand_cons (program : String) (arguments : List String) (w : σ) :
    runCommand start (program :: arguments) w =
      (Launch.told ⟨program :: arguments, (start program arguments w).1⟩,
        (start program arguments w).2) := by
  rw [runCommand, Launch.told]
  rcases start program arguments w with ⟨cause | o, v⟩ <;> rfl

/-- What is written down follows the commands, and nothing else changes. -/
theorem runCommands_logged {commands : List Command} (hne : ∀ c ∈ commands, c ≠ []) (w : σ)
    (log : List Launch) :
    ∃ started, Follows commands started (runCommands start commands w).1 ∧
      runCommands (logged start) commands (w, log) =
        ((runCommands start commands w).1, (runCommands start commands w).2, log ++ started) := by
  induction commands generalizing w log with
  | nil => exact ⟨[], .finished, by rw [List.append_nil]; rfl⟩
  | cons command commands ih =>
      obtain ⟨hcommand, hrest⟩ := List.forall_mem_cons.mp hne
      obtain ⟨program, arguments, rfl⟩ := List.exists_cons_of_ne_nil hcommand
      rw [runCommands, runCommands, runCommand_cons, runCommand_cons]
      simp only [logged]
      generalize start program arguments w = x
      obtain ⟨result, v⟩ := x
      cases htold : Launch.told ⟨program :: arguments, result⟩ with
      | error e => exact ⟨[⟨program :: arguments, result⟩], .failed htold commands, rfl⟩
      | ok o =>
          obtain ⟨started, hfollows, heq⟩ := ih hrest v (log ++ [⟨program :: arguments, result⟩])
          refine ⟨⟨program :: arguments, result⟩ :: started, .step htold hfollows, ?_⟩
          rw [List.append_assoc] at heq
          exact heq

end

/-! ## Operations -/

theorem Operation.ne_nil_of_mem_commands (o : Operation) (b : CommandBuilder) (shape : Shape) :
    ∀ c ∈ o.commands b shape, c ≠ [] := by
  cases o with
  | apply pid d value =>
      simp [commands, CommandBuilder.build, CommandBuilder.replace, CommandBuilder.change,
        CommandBuilder.discipline]
  | clear pid => simp [commands, CommandBuilder.clear, CommandBuilder.replace, CommandBuilder.discipline]

namespace Procfs

theorem enter_ne_command {setNamespace : Location → Except Errno Unit} {root : String} {pid : Pid} {t : Tree}
    {e : CommandError} : enter setNamespace root pid t ≠ .error (.command e) := by
  intro h
  unfold enter at h
  dsimp only at h
  split at h
  · cases Except.error.inj h
  · next l _ =>
      cases hset : setNamespace l with
      | error errno =>
          rw [hset] at h
          cases Except.error.inj h
      | ok u =>
          rw [hset] at h
          cases h

variable (files : σ → Tree) (root : String) (setNamespace : Location → Except Errno Unit)
  (start : String → List String → σ → Except Cause Outcome × σ)

/-- The host of a machine that writes down what is started on it. -/
def loggedHost : Host (σ × List Launch) := host (fun w => files w.1) root setNamespace (logged start)

/-- What is started for commands, and what the result tells of that. -/
theorem run_loggedHost (pid : Pid) {commands : List Command} (hne : ∀ c ∈ commands, c ≠ []) (w : σ)
    (log : List Launch) :
    let result := (host files root setNamespace start).run pid commands w
    ∃ started, (loggedHost files root setNamespace start).run pid commands (w, log) =
        (result.1, result.2, log ++ started) ∧
      (started ≠ [] → ∃ r, Follows commands started r) ∧
      (result.1 = .ok () → Follows commands started (.ok ())) ∧
      ∀ e, result.1 = .error (.command e) → ∃ last, started.getLast? = some last ∧ last.told = .error e := by
  intro result
  simp only [loggedHost, host, result]
  cases henter : enter setNamespace root pid (files w) with
  | error e =>
      refine ⟨[], by simp, fun h => absurd rfl h, nofun, fun e' h => ?_⟩
      obtain rfl : e = .command e' := Except.error.inj h
      exact absurd henter enter_ne_command
  | ok u =>
      obtain ⟨started, hfollows, heq⟩ := runCommands_logged start hne w log
      generalize runCommands start commands w = answer at hfollows heq ⊢
      obtain ⟨e | ⟨⟩, v⟩ := answer
      · refine ⟨started, by simp only [heq], fun _ => ⟨_, hfollows⟩, nofun, fun e' h => ?_⟩
        obtain rfl : e = e' := ShapingError.command.inj (Except.error.inj h)
        exact hfollows.last_of_error
      · exact ⟨started, by simp only [heq], fun _ => ⟨_, hfollows⟩, fun _ => hfollows, nofun⟩

theorem confirm_host (b : CommandBuilder) (pid : Pid) (n : Identity) (w : σ) (log : List Launch) :
    ∃ answer, (∀ e, answer ≠ .error (.command e)) ∧
      (⟨b, host files root setNamespace start⟩ : Shaper σ).confirm pid n w = (answer, w) ∧
      (⟨b, loggedHost files root setNamespace start⟩ : Shaper _).confirm pid n (w, log) =
        (answer, w, log) := by
  have hhost : (host files root setNamespace start).resolve pid w = (resolve root pid (files w), w) := rfl
  have hlogged : (loggedHost files root setNamespace start).resolve pid (w, log) =
      (resolve root pid (files w), w, log) := rfl
  simp only [Shaper.confirm, hhost, hlogged]
  cases hresolve : resolve root pid (files w) with
  | error e =>
      obtain ⟨cause, rfl⟩ := resolve_eq_error hresolve
      exact ⟨.error (.unresolvable pid cause), by simp, rfl, rfl⟩
  | ok m =>
      refine ⟨if m = n then .ok () else .error (.changed pid n), fun e h => ?_, rfl, rfl⟩
      split at h
      · cases h
      · cases Except.error.inj h

theorem attempt_loggedHost (b : CommandBuilder) (pid : Pid) {commands : Identity → List Command}
    (hne : ∀ n, ∀ c ∈ commands n, c ≠ []) (w : σ) (log : List Launch) :
    let result := (⟨b, host files root setNamespace start⟩ : Shaper σ).attempt pid commands w
    ∃ started, (⟨b, loggedHost files root setNamespace start⟩ : Shaper _).attempt pid commands (w, log) =
        (result.1, result.2, log ++ started) ∧
      (started ≠ [] → ∃ n r, resolve root pid (files w) = .ok n ∧ Follows (commands n) started r) ∧
      (∀ n, result.1 = .ok n →
        resolve root pid (files w) = .ok n ∧ Follows (commands n) started (.ok ())) ∧
      ∀ e, result.1 = .error (.command e) →
        ∃ last, started.getLast? = some last ∧ last.told = .error e := by
  intro result
  have hhost : (host files root setNamespace start).resolve pid w = (resolve root pid (files w), w) := rfl
  have hlogged : (loggedHost files root setNamespace start).resolve pid (w, log) =
      (resolve root pid (files w), w, log) := rfl
  simp only [result, Shaper.attempt, hhost, hlogged]
  cases hresolve : resolve root pid (files w) with
  | error e =>
      obtain ⟨cause, rfl⟩ := resolve_eq_error hresolve
      exact ⟨[], by rw [List.append_nil], by simp, by simp, by simp⟩
  | ok n =>
      obtain ⟨started, hrun, hstarted, hok, herror⟩ :=
        run_loggedHost files root setNamespace start pid (hne n) w log
      have hfollows (h : started ≠ []) :
          ∃ n' r, (.ok n : Except ShapingError Identity) = .ok n' ∧ Follows (commands n') started r :=
        (hstarted h).elim fun r hr => ⟨n, r, rfl, hr⟩
      refine ⟨started, ?_⟩
      simp only [hrun]
      generalize (host files root setNamespace start).run pid (commands n) w = answer at hok herror ⊢
      obtain ⟨e | ⟨⟩, v⟩ := answer
      · refine ⟨rfl, hfollows, by simp, fun e' h => herror e' ?_⟩
        rw [Except.error.inj h]
      · obtain ⟨answer, hnot, hconfirm, hconfirmed⟩ :=
          confirm_host files root setNamespace start b pid n v (log ++ started)
        simp only [hconfirm, hconfirmed]
        cases answer with
        | error e =>
            refine ⟨rfl, hfollows, by simp, fun e' h => ?_⟩
            obtain rfl : e = .command e' := Except.error.inj h
            exact absurd rfl (hnot e')
        | ok u =>
            refine ⟨rfl, hfollows, fun m h => ?_, by simp⟩
            obtain rfl : n = m := Except.ok.inj h
            exact ⟨rfl, hok rfl⟩

/-- What an operation starts on a machine, and what its answer says of that. The programs are those of its
commands in the namespace of its process, in order and up to the first that fails. All of them have succeeded if
the operation has, and the last one is what failed if the answer is that a command did. -/
theorem operation_starts (o : Operation) (b : CommandBuilder) (c : Cache) (w : σ) (log : List Launch) :
    let s : Shaper σ := ⟨b, host files root setNamespace start⟩
    let result := o.perform s c w
    let logged := o.perform ⟨b, loggedHost files root setNamespace start⟩ c (w, log)
    ∃ started, logged.1 = result.1 ∧ logged.2.1.shapes = result.2.1.shapes ∧
      logged.2.2 = (result.2.2, log ++ started) ∧
      (started ≠ [] → ∃ n r, o.found? s w = some n ∧ Follows (o.commands b (c.read n)) started r) ∧
      (result.1 = .ok () → o.isBlank = false →
        ∃ n, o.found? s w = some n ∧ Follows (o.commands b (c.read n)) started (.ok ())) ∧
      ∀ e, result.1 = .error (.command e) →
        ∃ last, started.getLast? = some last ∧ last.told = .error e := by
  intro s result logged
  simp only [result, logged, Operation.fst_perform, Operation.shapes_perform, Operation.snd_snd_perform,
    Operation.written?, Operation.attempt]
  cases hblank : o.isBlank with
  | true => exact ⟨[], by simp [Except.map]⟩
  | false =>
      simp only [Bool.false_eq_true, if_false]
      obtain ⟨started, hattempt, hstarted, hok, herror⟩ :=
        attempt_loggedHost files root setNamespace start b o.pid
          (fun n => o.ne_nil_of_mem_commands b (c.read n)) w log
      have hfound : o.found? s w = (resolve root o.pid (files w)).toOption := rfl
      refine ⟨started, ?_⟩
      rw [hattempt, hfound]
      generalize s.attempt o.pid (fun n => o.commands s.builder (c.read n)) w = answer at hok herror ⊢
      refine ⟨rfl, rfl, rfl, fun hne => ?_, fun h _ => ?_, fun e h => ?_⟩
      · obtain ⟨n, r, hresolve, hfollows⟩ := hstarted hne
        exact ⟨n, r, by rw [hresolve]; rfl, hfollows⟩
      · obtain ⟨e | n, v⟩ := answer
        · cases h
        · obtain ⟨hresolve, hfollows⟩ := hok n rfl
          exact ⟨n, by rw [hresolve]; rfl, hfollows⟩
      · obtain ⟨e' | n, v⟩ := answer
        · obtain rfl : e' = .command e := Except.error.inj h
          exact herror e rfl
        · cases h

end Procfs

end TrafficShaping
