import TrafficShaping.Program.Script
import TrafficShaping.Program.Signal
import TrafficShaping.Program.Utility.Basic

/-!
# The state of a shell

Processes share a world: the disk, what waits to be read, and what has been written. A process has streams,
which are numbers for channels of that world, and a shell has parameters, functions and options besides.

Time goes on as far as it makes a difference: a new process takes a little of it, a program takes more, and a
program that waits takes what it waits for. What processes that run beside each other write and send carries the
time of it, and comes in that order.

A script can be left before its end in several ways, and each of them is felt by what surrounds the place:
a loop, a function, the shell, the process. A failure of the shell itself ends it, unless it happens in one
of its ordinary commands.
-/

namespace TrafficShaping.Program

/-- What a stream is connected to: a text that is being read, a text that is being written, a file that is
being written, or a device. -/
inductive Channel where
  | input (n : Nat)
  | output (n : Nat)
  | file (l : Location)
  | null
  | endless
  | full
deriving DecidableEq

/-- A piece of what is written, with the time and the processes that write it: one and those it was started
from. -/
structure Piece where
  time : Nat
  writers : List Nat
  text : String

/-- A signal to a process, with the time and the processes that send it. -/
structure Sent where
  process : Nat
  signal : Nat
  time : Nat
  senders : List Nat

/-- What all processes share. Texts that are read and written go by numbers; of one that is being written
the pieces are last first. Time is counted in millionths of a second. -/
structure World where
  disk : Disk := {}
  inputs : List (Nat × String) := []
  outputs : List (Nat × List Piece) := []
  nextChannel : Nat := 3
  nextProcess : Nat := 4243
  now : Nat := 0
  /-- The signals that have been sent to processes that have not answered them yet. -/
  signals : List Sent := []

/-- What is left of the world when a process has ended before it could do all that it did. -/
def World.without (w : World) (process : Nat) : World :=
  let isVoid (time : Nat) (processes : List Nat) : Bool := w.now < time && processes.contains process
  { w with
    outputs := w.outputs.map fun o => (o.1, o.2.filter fun p => !isVoid p.time p.writers)
    signals := w.signals.filter fun s => !isVoid s.time s.senders }

/-- What is left of the world when everything that has been done since some time is broken off at a later one. -/
def World.cutOff (w before : World) (time : Nat) : World :=
  { w with
    now := time
    outputs := w.outputs.map fun o =>
      let old := (before.outputs.lookup o.1).getD []
      (o.1, (o.2.take (o.2.length - old.length)).filter (·.time ≤ time) ++ old)
    signals := w.signals.filter (·.time ≤ time) }

/-- The text of pieces in the order of their times. -/
def Piece.joined (ps : List Piece) : String :=
  String.join ((ps.reverse.mergeSort fun a b => decide (a.time ≤ b.time)).map (·.text))

/-- A parameter; without a value it is only known to be there. -/
structure Parameter where
  value : Option String := none
  isExported : Bool := false
  isReadOnly : Bool := false

/-- A program that runs beside the shell: its number, its process and of how many parts it is, and when and how
it ends. It is over when the shell has waited for it. -/
structure Job where
  number : Nat
  process : Nat
  parts : Nat
  start : Nat
  ending : Nat
  status : ExitStatus
  isOver : Bool := false

/-- A limit that is in force and the one up to which it can be raised; none is no limit. -/
structure Limit where
  soft : Option Nat := none
  hard : Option Nat := none

structure Shell where
  world : World := {}
  process : Nat := 4242
  /-- The process that the script was started in. -/
  main : Nat := 4242
  parent : Nat := 4241
  /-- The processes that this one was started from. -/
  ancestors : List Nat := []
  streams : List (Nat × Channel) := [(0, .null), (1, .output 1), (2, .output 2)]
  directory : Location := Machine.workDirectory
  /-- The path by which the directory was entered. -/
  path : String := Disk.pathOf Machine.workDirectory
  /-- The exit code of the last command. -/
  code : Nat := 0
  line : Nat := 1
  /-- The line up to which the script that is running has been read. -/
  lineRead : Nat := 1
  /-- The name that the shell goes by in its complaints. -/
  name : String := "sh"
  /-- The command of the shell that is at work, which is told in complaints too. -/
  command : Option String := none
  arguments : List String := []
  parameters : List (String × Parameter) := []
  /-- For every function that is running, what its local parameters were before. -/
  hidden : List (List (String × Option Parameter)) := []
  functions : List (String × Script) := []
  /-- The here documents that have been read, by their numbers. -/
  documents : List (Nat × List Part) := []
  aliases : List (String × String) := []
  /-- The names of programs that have been found. -/
  found : List String := []
  options : List Char := []
  /-- What is done at a signal; at signal 0 the shell ends. An empty text is nothing. -/
  traps : List (Nat × String) := []
  /-- The jobs, the last one first. -/
  jobs : List Job := []
  /-- The process of the last job. -/
  beside : Option Nat := none
  loops : Nat := 0
  /-- The exit code of the last command whose output was used in the command that is being expanded. -/
  outputCode : Option Nat := none
  umask : Nat := 0o22
  /-- The limits that have been set on what programs may use, by their letters: the one in force and the one
  that it can be raised to. -/
  limits : List (Char × Limit) := []
  /-- The exit code of the command before the trap that is being run. -/
  beforeTrap : Option Nat := none
  /-- Which word the next option is in, and how much of the word has been read; none if it is all. -/
  optionPlace : Nat × Option Nat := (1, none)

/-- How a place in a script is left. -/
inductive Leaving where
  | exited (code : Nat)
  | failed
  | killed (process signal : Nat)
  | returned (code : Nat)
  | broke (levels : Nat)
  | continued (levels : Nat)

abbrev Run := EStateM Leaving Shell

namespace Shell

/-! ## Streams -/

/-- The world when a text has been put on a channel. -/
def put (st : Shell) (c : Channel) (s : String) : Except Errno World :=
  let w := st.world
  match c with
  | .output n =>
    let piece : Piece := ⟨w.now, st.process :: st.ancestors, s⟩
    .ok { w with outputs := (n, piece :: (w.outputs.lookup n).getD []) :: w.outputs.filter (·.1 != n) }
  | .file l =>
    match w.disk.write l (((w.disk.read l 0).toOption.getD "") ++ s) with
    | .ok disk => .ok { w with disk }
    | .error e => .error e
  | .null | .endless => .ok w
  | .full => .error .noSpace
  | .input _ => .error .badDescriptor

/-- Writes to a stream. -/
def write (stream : Nat) (s : String) : Run (Except Errno Unit) := do
  let st ← get
  match st.streams.lookup stream with
  | none => return .error .badDescriptor
  | some c =>
    if s = "" then return .ok ()
    else match put st c s with
      | .ok world => do
        set { st with world }
        return .ok ()
      | .error e => return .error e

/-- What can be read from a stream. -/
def readable (stream : Nat) : Run String := do
  let st ← get
  match st.streams.lookup stream with
  | some (.input n) => return (st.world.inputs.lookup n).getD ""
  | some .endless => return "".pushn '\x00' Disk.enough
  | _ => return ""

/-- Leaves so much to be read from a stream. -/
def leave (stream : Nat) (rest : String) : Run Unit := modify fun st =>
  match st.streams.lookup stream with
  | some (.input n) =>
    { st with world.inputs := (n, rest) :: st.world.inputs.filter (·.1 != n) }
  | _ => st

/-- A channel that a text can be read from. -/
def newInput (s : String) : Run Channel := do
  let n := (← get).world.nextChannel
  modify fun st => { st with
    world.nextChannel := n + 1
    world.inputs := (n, s) :: st.world.inputs }
  return .input n

/-- A channel that collects what is written, and its number. -/
def newOutput : Run Nat := do
  let n := (← get).world.nextChannel
  modify fun st => { st with world.nextChannel := n + 1 }
  return n

/-- Takes what a channel has collected when all of it is there. -/
def collected (n : Nat) : Run String := do
  let st ← get
  let pieces := (st.world.outputs.lookup n).getD []
  set { st with
    world.outputs := st.world.outputs.filter (·.1 != n)
    world.now := (pieces.map Piece.time).foldl max st.world.now }
  return Piece.joined pieces

def setStream (stream : Nat) (c : Option Channel) : Run Unit := modify fun st =>
  let others := st.streams.filter (·.1 != stream)
  { st with streams := match c with
    | some c => (stream, c) :: others
    | none => others }

/-! ## Complaints -/

def complaint (st : Shell) (s : String) : String :=
  st.name ++ ": " ++ Number.naturalText st.line ++ ": " ++ (st.command.elim "" (· ++ ": ")) ++ s

def complain (s : String) : Run Unit := do
  let _ ← write 2 (complaint (← get) s ++ "\n")

def setCode (code : Nat) : Run Unit := modify fun st => { st with code }

/-- Complains and fails. -/
def fail {α : Type} (s : String) : Run α := do
  complain s
  setCode 2
  throw .failed

/-! ## Parameters -/

def lookup (st : Shell) (name : String) : Option String := (st.parameters.lookup name).bind (·.value)

/-- The characters that separate fields. -/
def separators (st : Shell) : String := (lookup st "IFS").getD " \t\n"

def hasOption (st : Shell) (o : Char) : Bool := st.options.contains o

/-- The parameter that says which word the next option is in. -/
def placeName : String := "OPTIND"

/-- Goes to the word that is said to hold the next option. -/
def goToOption (value : String) : Run Unit := do
  match Number.natural? value.toList with
  | some n => modify fun st => { st with optionPlace := (max n 1, none) }
  | none => fail ("Illegal number: " ++ value)

/-- Gives a parameter a value, unless it may only be read. -/
def assign (name value : String) : Run Unit := do
  let st ← get
  let p := (st.parameters.lookup name).getD {}
  if p.isReadOnly then fail (name ++ ": is read only")
  let p := { p with value := some value, isExported := p.isExported || hasOption st 'a' }
  set { st with parameters := (name, p) :: st.parameters.filter (·.1 != name) }
  if name = placeName then goToOption value

/-- Gives a parameter a value, and tells other programs of it. -/
def assignExported (name value : String) : Run Unit := do
  assign name value
  modify fun st => { st with parameters := st.parameters.map fun p =>
    if p.1 = name then (name, { p.2 with isExported := true }) else p }

/-- What other programs are told of the parameters. -/
def environment (st : Shell) : List (String × String) :=
  (st.parameters.filterMap fun p => if p.2.isExported then p.2.value.map fun v => (p.1, v) else none).mergeSort
    fun a b => decide (a.1 ≤ b.1)

/-- The values of a parameter that is no name. -/
def special? (st : Shell) (name : String) : Option (List String) :=
  match name with
  | "$" => some [Number.naturalText st.main]
  | "?" => some [Number.naturalText st.code]
  | "#" => some [Number.naturalText st.arguments.length]
  | "-" => some [String.ofList (st.options.filter Char.isAlpha)]
  | "!" => some (st.beside.map Number.naturalText).toList
  | "@" | "*" => some st.arguments
  | "0" => some [st.name]
  | name => (Number.natural? name.toList).map fun n => (st.arguments[n - 1]?).toList

/-- The value of a parameter. -/
def value? (st : Shell) (name : String) : Option String :=
  match name with
  | "@" | "*" => some (Text.joinWith " " st.arguments)
  | "PPID" => some (Number.naturalText st.parent)
  | name =>
    match special? st name with
    | some vs => vs.head?
    | none => lookup st name

/-- A text between single quotes. -/
def singleQuoted (s : String) : String :=
  let pieces := Text.splitAt '\'' s
  Text.joinWith "\"'\"" (pieces.map fun p => "'" ++ p ++ "'")

/-! ## Signals -/

/-- How much time a new process takes to start. -/
def forkTime : Nat := 400

/-- Sends a signal to a process, and says whether there is such a process. It waits until it is that process's
turn to answer it. A job does not answer to the two signals of a keyboard once it has started. -/
def send (process signal : Nat) : Run Bool := do
  let st ← get
  let now := st.world.now
  if process = st.process ∨ st.ancestors.contains process then do
    if signal ≠ 0 then
      let sent : Sent := ⟨process, signal, now, st.process :: st.ancestors⟩
      let others := st.world.signals.filter fun s => s.process ≠ process || s.signal ≠ signal || s.time ≠ now
      set { st with world.signals := others ++ [sent] }
    return true
  else match st.jobs.find? (·.process = process) with
    | none => return false
    | some j =>
      if j.isOver ∨ j.ending < now then return false
      else do
        let isIgnored := (signal = 2 || signal = 3) && j.start + forkTime ≤ now
        if now < j.ending && !Signal.isHarmless signal && !isIgnored then
          let ended (j : Job) : Job :=
            if j.process = process then { j with ending := now, status := .signaled signal false } else j
          let w := st.world.without process
          let sent : Sent := ⟨st.process, Signal.childEnded, now, [process]⟩
          set { st with jobs := st.jobs.map ended, world := { w with signals := sent :: w.signals } }
        return true

/-- The signals that have come to a process, and all others. -/
def arrived (st : Shell) : List Sent × List Sent :=
  st.world.signals.partition fun s => s.process = st.process && s.time ≤ st.world.now

/-- The lowest of the signals that have come to a process. -/
def nextSignal? (st : Shell) : Option Nat := ((arrived st).1.map (·.signal)).min?

/-- Takes a signal that has come to a process. -/
def answered (signal : Nat) : Run Unit := modify fun st =>
  let (mine, others) := arrived st
  { st with world.signals := mine.filter (·.signal ≠ signal) ++ others }

/-- Takes the signals that a process has not arranged for. Those that are not harmless end it. -/
def takeSignals : Run Unit := do
  let st ← get
  let isArranged (s : Sent) : Bool := (st.traps.lookup s.signal).isSome && !Signal.isCertain s.signal
  let (mine, others) := arrived st
  let (kept, taken) := mine.partition isArranged
  set { st with world.signals := kept ++ others }
  match ((taken.map (·.signal)).filter (!Signal.isHarmless ·)).min? with
  | none => return
  | some signal => throw (.killed st.process signal)

end Shell

end TrafficShaping.Program
