import TrafficShaping.Program.Relay
import TrafficShaping.Program.Shell.Invocation
import TrafficShaping.Program.Shell.Process
import TrafficShaping.Program.Shell.Redirection

/-!
# Running scripts

Scripts run commands, commands start programs, a program can be a shell with a script of its own, and words
hold scripts, so all of this is one recursion. It goes down to a limited depth, and a process that goes
deeper is ended by a signal. A loop is limited in the same way by how often it runs.

Processes do not run side by side here. A program that is put into the background is run to its end before the
next command starts, but the clock is then put back, and what is written is told in the order of the times at
which it was. A part of a pipeline has written everything before the next part reads it.
-/

namespace TrafficShaping.Program

namespace Shell

/-! ## Commands -/

/-- Where a command stands. If its failure is looked at it does not end the shell, and if it is the last one of
a process a program can take the place of that. -/
structure Standing where
  isTested : Bool := false
  isLast : Bool := false

/-- Runs scripts one after the other, of which only the last one stands where they all stand. -/
def runEach (run : Standing → Script → Run Unit) (s : Standing) : List Script → Run Unit
  | [] => return
  | [last] => run s last
  | first :: rest => do
    run { s with isLast := false } first
    runEach run s rest

/-- Reads a script and runs it line by line up to what cannot be read, with the aliases that there are when a
line is read. A script without commands succeeds. -/
def runLines (run : Script → Run Unit) : Nat → Bool → Source → Run Unit
  | 0, _, _ => overrun
  | n + 1, hasRun, source => do
    let st ← get
    match Source.line? { source with
      aliases := st.aliases, count := st.documents.length, documents := st.documents } with
    | .ok none => if !hasRun then setCode 0
    | .ok (some (.sequence [], source)) => runLines run n hasRun source
    | .ok (some (line, source)) => do
      modify fun st => { st with documents := source.documents, lineRead := source.line }
      run line
      runLines run n true source
    | .error (line, u) => do
      modify fun st => { st with line }
      fail ("Syntax error: " ++ u.message)

/-- Of how many parts a job is that a script becomes. -/
def partsOf : Script → Nat
  | .pipeline scripts => scripts.length
  | _ => 1

/-- Whether a script is run in a process of its own. -/
def isSubshell : Script → Bool
  | .subshell _ => true
  | _ => false

/-- Whether the failure of a script can end the shell by itself. -/
def isCommand : Script → Bool
  | .command .. | .subshell _ | .pipeline _ => true
  | _ => false

/-- Runs the steps of a loop, each of which is given the exit code of the one before it and says whether the
loop goes on and with which code. -/
def iterate (step : Nat → Run (Bool × Nat)) : Nat → Nat → Run Unit
  | 0, _ => overrun
  | n + 1, code => do
    let (goesOn, code) ← step code
    if goesOn then iterate step n code else setCode code

/-- Runs a step of a loop for each of some values. -/
def iterateOver (step : String → Run (Bool × Nat)) : List String → Run Unit
  | [] => return
  | v :: vs => do
    let (goesOn, code) ← step v
    setCode code
    if goesOn then iterateOver step vs

/-- Runs the inside of a loop, which may be left by telling the loop to end or to go on. -/
def insideLoop (body : Run (Bool × Nat)) : Run (Bool × Nat) := do
  try body
  catch
    | .broke n => if n ≤ 1 then return (false, 0) else throw (.broke (n - 1))
    | .continued n => if n ≤ 1 then return (true, 0) else throw (.continued (n - 1))
    | e => throw e

/-- Counts a loop while it runs. -/
def loopWith (body : Run Unit) : Run Unit := do
  let loops := (← get).loops
  modify fun st => { st with loops := loops + 1 }
  tidying (modify fun st => { st with loops }) body

/-- Gives streams back what they were connected to. -/
def restoreStreams (before : List (Nat × Channel)) (numbers : List Nat) : Run Unit := do
  for n in numbers do setStream n (before.lookup n)

/-- Connects streams, and says whether that went well. A failure is the shell's if the command is special. A
process of its own keeps nothing of what its streams were connected to. -/
def connectAll (capture : Capture) (isOwn isSpecial : Bool) (connections : List Connection) : Run Bool := do
  let before := (← get).streams
  try
    let mut met : List Nat := []
    for c in connections do
      Connection.connect capture (!isOwn && !met.contains c.number) c
      met := c.number :: met
    return true
  catch e => do
    restoreStreams before (connections.map (·.number))
    match e with
    | .failed => if isSpecial then throw .failed else return false
    | e => throw e

/-- Tells the commands that are run, if that is wanted. -/
def trace (channel : Option Channel) (assignments : List (String × String)) (words : List String) : Run Unit := do
  let st ← get
  if hasOption st 'x' then
    let line := (lookup st "PS4").getD "+ " ++
      Text.joinWith " " ((assignments.map fun a => a.1 ++ "=" ++ a.2) ++ words) ++ "\n"
    if let some c := channel then
      if let .ok world := put st c line then set { st with world }

/-- Whether the words of a command may be assignments that are not cut into fields. -/
def assigns (name : String) : Bool := ["export", "readonly", "local"].contains name

/-- The fields of the words of a command. -/
def wordsOf (capture : Capture) (words : List Word) : Run (List String) := do
  let first := (words.head?.bind Word.plain?).getD ""
  let rec go : List Word → Run (List String)
    | [] => return []
    | w :: ws => do
      let name := w.takeWhile fun
        | .char c false => isNameChar c
        | _ => false
      let fields ← match (if assigns first then Word.plain? name else none), w[name.length]? with
        | some name, some (.char '=' false) =>
          if isName name then do
            let value ← assignedOf capture (w.drop (name.length + 1))
            pure [name ++ "=" ++ value]
          else fieldsOf capture w
        | _, _ => fieldsOf capture w
      return fields ++ (← go ws)
  go words

/-- Assigns parameters for a command, and returns their values. -/
def assignAll (capture : Capture) (isExported : Bool) : List (String × Word) → Run (List (String × String))
  | [] => return []
  | (name, w) :: rest => do
    let value ← assignedOf capture w
    if isExported then assignExported name value else assign name value
    return (name, value) :: (← assignAll capture isExported rest)

/-- Gives parameters back what they were. -/
def restoreParameters (before : List (String × Option Parameter)) : Run Unit := do
  modify fun st => { st with
    parameters := before.foldl (fun ps b =>
      let others := ps.filter (·.1 != b.1)
      match b.2 with
      | some p => (b.1, p) :: others
      | none => others) st.parameters }
  if (before.lookup placeName).isSome then goToOption ((lookup (← get) placeName).getD "1")

/-- Complains about a program that was not started, and returns the code for that. -/
def complainOfProgram (word : String) (e : Errno) : Run Nat := do
  let isMissing := e = .notFound ∨ e = .notDirectory
  complain (word ++ ": " ++ (if isMissing then "not found" else e.description))
  return if isMissing ∨ e = .tooManyLinks ∨ e = .nameTooLong ∨ !word.contains '/' then 127 else 126

/-- The script of the first case with a pattern that matches a text. -/
def caseOf? (capture : Capture) (subject : List Char) : List (List Word × Script) → Run (Option Script)
  | [] => return none
  | (patterns, script) :: cases => do
    if ← matchesAny patterns then return some script
    caseOf? capture subject cases
where
  matchesAny : List Word → Run Bool
    | [] => return false
    | w :: ws => do
      if Pattern.covers (← patternOf capture w) subject then return true
      matchesAny ws

/-- Runs the parts of a pipeline: each of them reads what the one before it has written. -/
def pipe (inProcess : Run Unit → Run ExitStatus) (run : Script → Run Unit) : Option String → List Script →
    Run ExitStatus
  | _, [] => return .exited 0
  | input, script :: rest => do
    let channel ← input.mapM newInput
    let connectInput : Run Unit := do
      if channel.isSome then setStream 0 channel
    match rest with
    | [] => inProcess do
      connectInput
      run script
    | rest => do
      let n ← newOutput
      let status ← inProcess do
        connectInput
        setStream 1 (some (.output n))
        run script
      Builtin.notice status
      pipe inProcess run (some (← collected n)) rest

/-- Reads a file of commands, which is looked for where programs are if its name has no slash. -/
def readCommands (path : String) : Run String := do
  let st ← get
  let places := if path.contains '/' then [path]
    else (Text.splitAt ':' ((lookup st "PATH").getD "")).map (· ++ "/" ++ path)
  let read (place : String) : Option String :=
    (do st.world.disk.read (← st.world.disk.find st.directory place) Disk.enough).toOption
  match places.findSome? read with
  | some text => return text
  | none =>
    if path.contains '/' then fail ("cannot open " ++ path ++ ": No such file") else fail (path ++ ": not found")

/-- Makes a change to what programs are told. -/
def carryOut (c : Change) : Run Unit := modify fun st =>
  { st with parameters := match c with
    | .clear => []
    | .forget name => st.parameters.filter (·.1 != name)
    | .give name value =>
      (name, { value := some value, isExported := true }) :: st.parameters.filter (·.1 != name) }

/-- Runs commands one after the other, and returns a code for all of them. One that ends by a signal or with
the code 255 is the last one, and so is one that cannot be started. -/
def shareOut (run : List String → Run ExitStatus) (word : String) : List (List String) → Run Nat
  | [] => return 0
  | command :: commands => do
    let stop (code : Nat) (s : String) : Run Nat := do
      let _ ← write 2 (word ++ ": " ++ command.head?.getD "" ++ ": " ++ s ++ "\n")
      return code
    match ← run command with
    | .signaled signal _ => stop 125 ("terminated by signal " ++ Number.naturalText signal)
    | .exited 255 => stop 124 "exited with status 255; aborting"
    | .exited 126 => return 126
    | .exited 127 => return 127
    | status => do
      let code ← shareOut run word commands
      return if Builtin.codeOf status ≠ 0 ∧ code = 0 then 123 else code

/-- Sends signals for a program. -/
def killFor (word : String) (arguments : List String) : Run ExitStatus := do
  let complain (s : String) : Run ExitStatus := do
    let _ ← write 2 (word ++ ": " ++ s ++ "\n")
    return .exited 1
  let (name, processes) := match arguments with
    | "-s" :: name :: ws => (name, ws)
    | "--" :: ws => ("TERM", ws)
    | w :: ws => match Text.stripStart? "-" w with
      | some name => (name, ws)
      | none => ("TERM", arguments)
    | [] => ("TERM", [])
  let sendAll (signal : Nat) : List String → Run ExitStatus := fun processes => do
    let mut status : ExitStatus := .exited 0
    for p in processes do
      match Number.natural? p.toList with
      | none => status ← complain ("failed to parse argument: " ++ Utility.quoted p)
      | some process =>
        if !(← send process signal) then status ← complain ("(" ++ p ++ "): No such process")
    return status
  match name, processes, Signal.ofText? ((Text.stripStart? "SIG" name).getD name) with
  | "l", [w], _ =>
    match Signal.ofText? w with
    | some signal => do
      let isName := Number.natural? w.toList = none
      let _ ← write 1 ((if isName then Number.naturalText signal else Signal.name signal) ++ "\n")
      return .exited 0
    | none => complain ("unknown signal name " ++ w)
  | _, ws, some signal => do
    let status ← sendAll signal ws
    takeSignals
    return status
  | name, _, none => complain ("invalid argument " ++ name)

/-- The words that a command is looked up for on behalf of another one: those after options that only change
where it is looked for. -/
def commandOf? : List String → Option (List String)
  | [] => none
  | w :: ws =>
    match w.toList with
    | ['-', '-'] => if ws = [] then none else some ws
    | '-' :: c :: cs => if (c :: cs).all (· = 'p') then commandOf? ws else none
    | _ => some (w :: ws)

mutual

/-- Runs a script, and what was arranged for the signals that came while it ran. -/
def run : Nat → Standing → Script → Run Unit
  | 0, _, _ => overrun
  | n + 1, s, script => do
    if hasOption (← get) 'n' then return
    perform n s script
    answerSignals n
    let st ← get
    if isCommand script && st.code ≠ 0 && !s.isTested && hasOption st 'e' then throw (.exited st.code)

def perform : Nat → Standing → Script → Run Unit
  | 0, _, _ => overrun
  | n + 1, s, script =>
    match script with
    | .command line assignments words redirects => simple n s line assignments words redirects
    | .sequence [] => setCode 0
    | .sequence scripts => runEach (run n) s scripts
    | .background script => do
      runBeside (finish n) (partsOf script) do
        setStream 0 (some .null)
        run n { isLast := true } script
      setCode 0
    | .both first second => do
      run n { isTested := true } first
      if (← get).code = 0 then run n s second
    | .either first second => do
      run n { isTested := true } first
      if (← get).code ≠ 0 then run n s second
    | .negated script => do
      run n { isTested := true } script
      modify fun st => { st with code := if st.code = 0 then 1 else 0 }
    | .pipeline scripts => do
      let _ ← newJobNumber
      let status ← pipe (inSubshell (finish n)) (run n { s with isLast := true }) none scripts
      Builtin.notice status
      setCode (Builtin.codeOf status)
    | .redirected script line redirects => do
      modify fun st => { st with line }
      let before := (← get).streams
      let connections ← redirects.mapM (Connection.ofRedirect (capture n))
      if ← connectAll (capture n) (isSubshell script) false connections then
        tidying (restoreStreams before (connections.map (·.number))) (run n { s with isLast := false } script)
      else if !s.isTested && hasOption (← get) 'e' then throw (.exited (← get).code)
    | .subshell script => do
      if s.isLast && (← get).traps.isEmpty then do
        run n s script
        throw (.exited (← get).code)
      else do
        let _ ← newJobNumber
        let status ← inSubshell (finish n) (run n { s with isLast := true } script)
        Builtin.notice status
        setCode (Builtin.codeOf status)
    | .branch condition yes no => do
      run n { isTested := true } condition
      run n s (if (← get).code = 0 then yes else no)
    | .loop whileTrue condition body =>
      let step (code : Nat) : Run (Bool × Nat) := insideLoop do
        run n { isTested := true } condition
        if ((← get).code = 0 : Bool) = whileTrue then do
          run n { s with isLast := false } body
          return (true, (← get).code)
        else return (false, code)
      loopWith (iterate step loopLimit 0)
    | .each line name words body => do
      modify fun st => { st with line }
      let values ← match words with
        | none => pure (← get).arguments
        | some words => wordsOf (capture n) words
      let step (value : String) : Run (Bool × Nat) := insideLoop do
        assign name value
        run n { s with isLast := false } body
        return (true, (← get).code)
      setCode 0
      loopWith (iterateOver step values)
    | .choose line w cases => do
      modify fun st => { st with line }
      let subject ← textOf (capture n) w
      match ← caseOf? (capture n) subject.toList cases with
      | some script => run n s script
      | none => setCode 0
    | .define name body => do
      modify fun st => { st with functions := (name, body) :: st.functions.filter (·.1 != name) }
      setCode 0

/-- Runs what was arranged for the signals that have come, the lowest first. -/
def answerSignals : Nat → Run Unit
  | 0 => return
  | n + 1 => do
    let st ← get
    match nextSignal? st with
    | none => return
    | some signal => do
      answered signal
      let text := (st.traps.lookup signal).getD ""
      if text ≠ "" then do
        modify fun st => { st with beforeTrap := some st.code }
        evaluate n false text
        modify fun now => { now with code := st.code, beforeTrap := st.beforeTrap }
      answerSignals n

/-- Runs scripts in a process of their own for what they write. -/
def capture : Nat → Capture
  | 0, _ => overrun
  | n + 1, scripts => do
    let number ← newOutput
    let _ ← newJobNumber
    let status ← inSubshell (finish n) do
      setStream 1 (some (.output number))
      runEach (run n) { isLast := true } scripts
    Builtin.notice status
    let s ← collected number
    modify fun st => { st with outputCode := some (Builtin.codeOf status) }
    return s

/-- Runs a simple command. Its words are expanded first, then its redirections and its assignments. -/
def simple : Nat → Standing → Nat → List (String × Word) → List Word → List Redirect → Run Unit
  | 0, _, _, _, _, _ => overrun
  | n + 1, s, line, assignments, words, redirects => do
    modify fun st => { st with line, outputCode := none }
    let words ← wordsOf (capture n) words
    let connections ← redirects.mapM (Connection.ofRedirect (capture n))
    let before ← get
    let isSpecial := match words with
      | name :: _ => Builtin.isBuiltin? name = some true
      | [] => false
    let errors := before.streams.lookup 2
    let tidy := restoreStreams before.streams (connections.map (·.number))
    if ← connectAll (capture n) false isSpecial connections then
      match words with
      | [] => tidying tidy do
        let assigned ← assignAll (capture n) false assignments
        trace errors assigned []
        modify fun st => { st with code := st.outputCode.getD 0 }
      | ["exec"] => do
        let assigned ← assignAll (capture n) false assignments
        trace errors assigned words
        setCode 0
      | words =>
        let parameters := if isSpecial then [] else assignments.map fun a => (a.1, before.parameters.lookup a.1)
        tidying (do tidy; restoreParameters parameters) do
          let assigned ← assignAll (capture n) (!isSpecial) assignments
          trace errors assigned words
          dispatch n s true words
    else setCode 2

/-- Runs a command by its name: a special command of the shell, a function, another command of the shell, or a
program. A command that is looked up on behalf of another one is neither special nor a function. -/
def dispatch : Nat → Standing → Bool → List String → Run Unit
  | 0, _, _, _ => overrun
  | _, _, _, [] => setCode 0
  | n + 1, s, isDirect, name :: arguments => do
    let special : Option Bool := Builtin.isBuiltin? name
    let st ← get
    let function := if special = some true ∨ !isDirect then none else st.functions.lookup name
    match function, special, (if name = "command" then commandOf? arguments else none) with
    | some body, _, _ => call n s body arguments
    | none, _, some words => dispatch n s false words
    | none, some isSpecial, none => do
      let command := st.command
      modify fun st => { st with command := some name }
      try tidying (modify fun st => { st with command }) (runOwn n s name arguments)
      catch
        | .failed => if isSpecial && isDirect then throw .failed else setCode 2
        | e => throw e
    | none, none, none => external n s name arguments

/-- Runs a command of the shell. -/
def runOwn : Nat → Standing → String → List String → Run Unit
  | 0, _, _, _ => overrun
  | n + 1, s, name, arguments =>
    match name, arguments with
    | "eval", arguments => evaluate n s.isTested (Text.joinWith " " arguments)
    | ".", arguments => do
      match (← Builtin.options "" arguments).2 with
      | [] => setCode 0
      | path :: _ => do
        let text ← readCommands path
        modify fun st => { st with command := some path }
        try evaluate n false text
        catch
          | .returned code => setCode code
          | e => throw e
    | "exec", [] => setCode 0
    | "exec", word :: arguments => do
      match findProgram (← get) word with
      | .error e => throw (.exited (← complainOfProgram word e))
      | .ok program => do
        modify fun st => { st with traps := st.traps.filter (·.2 = "") }
        endAs (← start n true program word arguments)
    | "command", arguments => lookUp arguments
    | "type", arguments => do
      setCode 0
      describeAll arguments
    | "hash", arguments => hash arguments
    | name, arguments =>
      match Builtin.builtins.lookup name with
      | some (_, builtin) => builtin arguments
      | none => setCode 0

/-- Runs a function with arguments, and takes back what was local to it. -/
def call : Nat → Standing → Script → List String → Run Unit
  | 0, _, _, _ => overrun
  | n + 1, s, body, arguments => do
    let st ← get
    if functionLimit ≤ st.hidden.length then
      fail ("Maximum function recursion depth (" ++ Number.naturalText functionLimit ++ ") reached")
    set { st with arguments, hidden := [] :: st.hidden, loops := 0, optionPlace := (1, none) }
    let tidy : Run Unit := do
      let parameters := (← get).hidden.head?.getD []
      modify fun now => { now with
        arguments := st.arguments, hidden := st.hidden, loops := st.loops, optionPlace := st.optionPlace }
      restoreParameters parameters
    tidying tidy do
      try run n { isTested := s.isTested } body
      catch
        | .returned code => setCode code
        | e => throw e

/-- Runs a program for a command. -/
def external : Nat → Standing → String → List String → Run Unit
  | 0, _, _, _ => overrun
  | n + 1, s, word, arguments => do
    let st ← get
    match findProgram st word with
    | .error e => setCode (← complainOfProgram word e)
    | .ok program => do
      keepInMind word
      if s.isLast && st.traps.isEmpty then endAs (← start n true program word arguments)
      else do
        let _ ← newJobNumber
        let status ← start n false program word arguments
        noticeChild
        takeSignals
        Builtin.notice status
        setCode (Builtin.codeOf status)

/-- Runs what is called by a word. -/
def start : Nat → Bool → Executable → String → List String → Run ExitStatus
  | 0, _, _, _, _ => overrun
  | n + 1, inPlace, e, word, arguments =>
    launch n inPlace e.name (e.calledAs.getD word) (e.words ++ arguments)

/-- Runs a program that is called by a word, either in a process of its own or in the place of this one. -/
def launch : Nat → Bool → String → String → List String → Run ExitStatus
  | 0, _, _, _, _ => overrun
  | n + 1, inPlace, program, word, arguments =>
    match program, Order.ofProgram? program arguments, Utility.ofName? program with
    | "xargs", _, _ => share n word arguments
    | "kill", _, _ => killFor word arguments
    | _, some order, _ => do
      let parameters := (← get).parameters
      order.changes.forM carryOut
      let status ← match order.task with
        | .work u => runUtility u program word []
        | .command words => relay n inPlace program word words
        | .limited most late words => do
          let before := (← get).world
          let status ← relay n false program word words
          if before.now + most < (← get).world.now then do
            modify fun st => { st with world := st.world.cutOff before (before.now + most) }
            match late with
            | .error signal => pure (.signaled signal false)
            | .ok u => runUtility u program word []
          else pure status
      modify fun st => { st with parameters }
      return status
    | _, none, some u => runUtility u program word arguments
    | _, none, none => startShell n inPlace word arguments

/-- Runs a command again and again with words that are read, as long as that goes well. -/
def share : Nat → String → List String → Run ExitStatus
  | 0, _, _ => overrun
  | n + 1, word, arguments => do
    match Sharing.ofWords arguments with
    | .error e => runUtility (fun _ => Utility.misused "xargs" 1 e) "xargs" word []
    | .ok sharing =>
      let input ← readable 0
      leave 0 ""
      match sharing.commands input with
      | .error e => runUtility (fun _ => Utility.failing 1 ("xargs: " ++ e)) "xargs" word []
      | .ok commands => do
        let streams := (← get).streams
        setStream 0 (some .null)
        let code ← shareOut (fun words => do
          if sharing.tells then
            let _ ← write 2 (Text.joinWith " " words ++ "\n")
          relay n false "xargs" word words) word commands
        setStream 0 (streams.lookup 0)
        if (streams.lookup 0).isSome then return .exited code
        let _ ← write 2 (word ++ ": error closing file: " ++ Errno.badDescriptor.description ++ "\n")
        return .exited 1

/-- Runs the command that a program is given. -/
def relay : Nat → Bool → String → String → List String → Run ExitStatus
  | 0, _, _, _, _ => overrun
  | _, _, _, _, [] => return .exited 0
  | n + 1, inPlace, name, word, command :: arguments => do
    let st ← get
    let st := if (lookup st "PATH").isSome then st
      else { st with parameters := ("PATH", { value := some "/bin:/usr/bin" }) :: st.parameters }
    match findProgram st command with
    | .ok program => start n inPlace program command arguments
    | .error e => do
      let _ ← write 2 (renamed name word (Order.refusal name command e) ++ "\n")
      return .exited (if e = .notFound then 127 else 126)

/-- Runs a shell, which knows of this one only what programs are told. -/
def startShell : Nat → Bool → String → List String → Run ExitStatus
  | 0, _, _, _ => overrun
  | n + 1, inPlace, word, arguments => do
    let st ← get
    set {
      world := { st.world with nextProcess := st.world.nextProcess + 1, now := st.world.now + programTime }
      process := if inPlace then st.process else st.world.nextProcess
      main := if inPlace then st.process else st.world.nextProcess
      parent := if inPlace then st.parent else st.process
      ancestors := if inPlace then st.ancestors else st.process :: st.ancestors
      streams := st.streams
      directory := st.directory
      path := st.path
      name := word
      parameters := firstParameters (environment st) st.path
      traps := st.traps.filter (·.2 = "")
      umask := st.umask
      limits := st.limits : Shell }
    let invocation := Invocation.ofWords {} arguments
    let status ← finish n do
      let text ← invocation.begin
      evaluate n false text
    modify fun inner => { st with world := inner.world }
    if !inPlace then takeSignals
    return status

/-- Runs the commands in a text. -/
def evaluate : Nat → Bool → String → Run Unit
  | 0, _, _ => overrun
  | n + 1, isTested, text => do
    let lineRead := (← get).lineRead
    tidying (modify fun st => { st with lineRead })
      (runLines (run n { isTested }) (text.length + loopLimit) false { rest := text.toList })

/-- Runs a process to its end, and then what was arranged for that. This does not change how the process has
ended unless it ends in a way of its own. -/
def finish : Nat → Run Unit → Run ExitStatus
  | 0, _ => overrun
  | n + 1, body => do
    let process := (← get).process
    let status ← endOf process body
    let st ← get
    match status, st.traps.lookup 0 with
    | .exited code, some text => do
      set { st with
        traps := st.traps.filter (·.1 ≠ 0)
        code, command := none, loops := 0, beforeTrap := some code }
      let ending ← endOf process do
        try evaluate n false text
        catch
          | .failed => throw (.exited 2)
          | .returned given => if given ≠ 0 ∧ hasOption (← get) 'e' then throw (.exited given)
          | e => throw e
        throw (.exited code)
      return ending
    | status, _ => return status

end

end Shell

end TrafficShaping.Program
