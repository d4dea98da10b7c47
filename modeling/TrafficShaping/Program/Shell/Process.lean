import TrafficShaping.Program.Script.Reader
import TrafficShaping.Program.Shell.Builtin
import TrafficShaping.Program.Utility.Streams
import TrafficShaping.Program.Utility.Table

/-!
# Processes

A process is a copy of the one that starts it: what it changes in itself is gone when it ends, and what it
changes in the world stays. It ends with a code or by a signal. Programs are found by the paths that lead to
them, and the utilities among them are run here.
-/

namespace TrafficShaping.Program

namespace Shell

/-! ## Processes -/

/-- How deep scripts can be nested in each other. -/
def depthLimit : Nat := 20000

/-- How often a loop can run. -/
def loopLimit : Nat := 200000

/-- How many functions can be running. -/
def functionLimit : Nat := 1000

/-- Ends the process that has gone too far. -/
def overrun {α : Type} : Run α := do throw (.killed (← get).process 11)

/-- Runs something and tidies up behind it also if it is left. -/
def tidying (tidy body : Run Unit) : Run Unit := do
  try body
  catch e => do
    tidy
    throw e
  tidy

/-- Runs a process up to where it ends. A signal to another process is passed on. -/
def endOf (process : Nat) (body : Run Unit) : Run ExitStatus := do
  try
    body
    return .exited ((← get).code % 256)
  catch
    | .exited code | .returned code => return .exited (code % 256)
    | .failed => return .exited 2
    | .broke _ | .continued _ => return .exited 0
    | .killed p signal => if p = process then return .signaled signal false else throw (.killed p signal)

/-- Runs something in a process of its own, which starts as a copy of this one without its traps and its jobs,
up to the time when it ends. -/
def fork (finish : Run Unit → Run ExitStatus) (body : Run Unit) : Run ExitStatus := do
  let st ← get
  let process := st.world.nextProcess
  set { st with
    world.nextProcess := process + 1
    world.now := st.world.now + forkTime
    process
    lineRead := 1
    ancestors := st.process :: st.ancestors
    traps := st.traps.filter (·.2 = "")
    jobs := [] }
  let status ← finish body
  modify fun inner => { st with world := inner.world }
  return status

/-- Tells a process that one it has waited for has ended, if it has arranged for that. -/
def noticeChild : Run Unit := do
  let st ← get
  if (st.traps.lookup Signal.childEnded).isSome then
    let sent : Sent := ⟨st.process, Signal.childEnded, st.world.now, []⟩
    set { st with world.signals := sent :: st.world.signals }

/-- Runs something in a process of its own and waits for it. -/
def inSubshell (finish : Run Unit → Run ExitStatus) (body : Run Unit) : Run ExitStatus := do
  let status ← fork finish body
  noticeChild
  takeSignals
  return status

/-- Finds the first free number for a job. The job that had it and is over is forgotten. -/
def newJobNumber : Run Nat := do
  let st ← get
  let isKept (n : Nat) : Bool := st.jobs.any fun j => j.number = n && !j.isOver
  let number := ((List.range (st.jobs.length + 1)).map (· + 1)).find? (!isKept ·) |>.getD 1
  set { st with jobs := st.jobs.filter (·.number ≠ number) }
  return number

/-- Runs something in a process of its own that this one does not wait for. -/
def runBeside (finish : Run Unit → Run ExitStatus) (parts : Nat) (body : Run Unit) : Run Unit := do
  let number ← newJobNumber
  let st ← get
  let process := st.world.nextProcess
  let status ← fork finish body
  modify fun ended =>
    let job : Job := { number, process, parts, start := st.world.now, ending := ended.world.now, status }
    let sent : Sent := ⟨st.process, Signal.childEnded, job.ending, [process]⟩
    { ended with
      world.now := st.world.now
      world.signals := sent :: ended.world.signals
      jobs := job :: ended.jobs
      beside := some process }
  takeSignals

/-- Ends a process in the way that another one has ended. -/
def endAs {α : Type} : ExitStatus → Run α
  | .signaled signal _ => do throw (.killed (← get).process signal)
  | status => throw (.exited (Builtin.codeOf status))

/-! ## Finding programs -/

/-- What is run for a word. A word without a slash is looked for in the directories that the shell
has been told. -/
def findProgram (st : Shell) (word : String) : Except Errno Executable :=
  if word.contains '/' then st.world.disk.program st.directory word
  else if word ∈ ["", ".", ".."] then .error .accessDenied
  else
    let directories := Text.splitAt ':' ((lookup st "PATH").getD "")
    match directories.findSome? fun d =>
      (st.world.disk.program st.directory ((if d = "" then "." else d) ++ "/" ++ word)).toOption with
    | some e => .ok e
    | none => .error .notFound

/-- The path of a program that is found by its name. -/
def pathOfProgram? (st : Shell) (word : String) : Option String :=
  let isThere (path : String) : Bool := (st.world.disk.program st.directory path).toOption.isSome
  if word.contains '/' then
    if (st.world.disk.find st.directory word).toOption.any fun l => (st.world.disk.tree.get? l).isSome then some word
    else none
  else ((Text.splitAt ':' ((lookup st "PATH").getD "")).map (· ++ "/" ++ word)).find? isThere

/-- What a command is: the word that stands for it, and a description. -/
def describe? (st : Shell) (name : String) : Option (String × String) :=
  let special : Option Bool := Builtin.isBuiltin? name
  if Reader.reservedWords.contains name then some (name, " is a shell keyword")
  else if let some text := st.aliases.lookup name then
    some ("alias " ++ Builtin.aliasLine (name, text), " is an alias for " ++ text)
  else if special = some true then some (name, " is a special shell builtin")
  else if (st.functions.lookup name).isSome then some (name, " is a shell function")
  else if special = some false then some (name, " is a shell builtin")
  else (pathOfProgram? st name).map fun path =>
    (path, (if st.found.contains name then " is a tracked alias for " else " is ") ++ path)

/-- Keeps in mind that a program has been found. -/
def keepInMind (word : String) : Run Unit := modify fun st =>
  if word.contains '/' ∨ (Builtin.isBuiltin? word).isSome ∨ st.found.contains word then st
  else { st with found := word :: st.found }

/-- Says what commands are. -/
def describeAll (names : List String) : Run Unit := do
  let told ← names.mapM fun name => do
    match describe? (← get) name with
    | some (_, s) => do
      keepInMind name
      return name ++ s
    | none => do
      setCode 127
      return name ++ ": not found"
  Builtin.sayWith (← get).code (Utility.lines told)

/-- Says what the first of some names is, or only which word stands for it. -/
def lookUp : Builtin := fun ws => do
  let (os, names) ← Builtin.options "pvV" ws
  setCode 0
  if os.any (·.1 = 'V') then describeAll (names.take 1)
  else if let name :: _ := names then
    match describe? (← get) name with
    | some (s, _) => do
      keepInMind name
      Builtin.say (s ++ "\n")
    | none => setCode 127

/-- Keeps programs in mind, or tells those that are. -/
def hash : Builtin := fun ws => do
  let (os, names) ← Builtin.options "rv" ws
  setCode 0
  if os.any (·.1 = 'r') then modify fun st => { st with found := [] }
  for name in names do
    if (describe? (← get) name).isSome then keepInMind name
    else do
      complain (name ++ ": not found")
      setCode 1
  if names.isEmpty && os.isEmpty then do
    let st ← get
    Builtin.say (Utility.lines (st.found.filterMap (pathOfProgram? st)))

/-! ## Utilities -/

/-- The complaints of a program, which calls itself what it was called. -/
def renamed (name word complaints : String) : String :=
  if name = word then complaints
  else
    let line (s : String) : String :=
      match Text.stripStart? (name ++ ": ") s, Text.stripStart? ("Try '" ++ name ++ " ") s with
      | some rest, _ => word ++ ": " ++ rest
      | _, some rest => "Try '" ++ word ++ " " ++ rest
      | none, none => s
    Text.joinWith "\n" ((Text.splitAt '\n' complaints).map line)

/-- How much time a program takes that has nothing to wait for. -/
def programTime : Nat := 1000

/-- Runs a utility under a name. -/
def runUtility (u : Utility) (name word : String) (arguments : List String) : Run ExitStatus := do
  let r := u (← Builtin.callOf arguments (← readable 0))
  let hasInput := ((← get).streams.lookup 0).isSome
  let r := if r.hasRead && !hasInput then Utility.withoutInput name r else r
  modify fun st => { st with world.now := st.world.now + programTime + r.lasts }
  if r.hasRead then leave 0 ""
  if let some disk := r.disk then modify fun st => { st with world.disk := disk }
  let _ ← write 2 (renamed name word r.err)
  match ← (if r.out = "" && name ≠ "cat" then pure (.ok ()) else write 1 r.out) with
  | .ok () => return .exited r.code
  | .error e => do
    let (complaints, code) := Utility.withoutOutput name e
    let _ ← write 2 (Utility.lines (complaints.map fun s => word ++ ": " ++ s))
    return .exited code

end Shell

end TrafficShaping.Program
