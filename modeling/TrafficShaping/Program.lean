import TrafficShaping.Errno
import TrafficShaping.Text.Blank
import TrafficShaping.Text.Quoted

/-!
# Running programs

What a program leaves behind when it ends: how it ended and what it wrote. A program that could not be
started, or that did not end with success, is an error, and the error tells the command line and everything
the program wrote.

How programs start is left to the machine that they start on, which has a state of its own.
-/

namespace TrafficShaping

/-- Why an operation on files, threads or programs did not take place. -/
inductive Cause where
  | system (e : Errno)
  | entityNotFound
  | permissionDenied
  | wouldBlock
  | nulByte
  | unexpectedTarget (target : String)
deriving DecidableEq

def Cause.message : Cause → String
  | .system e => e.message
  | .entityNotFound => "entity not found"
  | .permissionDenied => "permission denied"
  | .wouldBlock => "operation would block"
  | .nulByte => "nul byte found in provided data"
  | .unexpectedTarget target => "unexpected namespace link target " ++ Text.quoted target

/-- How a program ended, or what else waiting for it has told: that it ended by itself with a code or by a
signal, that it stopped or went on, or nothing that a word is known for. -/
inductive ExitStatus where
  | exited (code : Nat)
  | signaled (signal : Nat) (dumped : Bool)
  | stopped (signal : Nat)
  | continued
  | unrecognised (word : UInt32)
deriving DecidableEq

namespace ExitStatus

/-- Reads the status word that waiting for a program gives. -/
def ofWaitStatus (word : UInt32) : ExitStatus :=
  let w := word.toNat
  if w % 128 = 0 then .exited (w / 256 % 256)
  else if w % 128 ≠ 127 then .signaled (w % 128) (w / 128 % 2 = 1)
  else if w % 256 = 127 then .stopped (w / 256 % 256)
  else if w = 0xffff then .continued
  else .unrecognised word

def isSuccess (s : ExitStatus) : Bool := s = .exited 0

/-- The names of the signals from 1 on. -/
def signalNames : List String :=
  ["SIGHUP", "SIGINT", "SIGQUIT", "SIGILL", "SIGTRAP", "SIGABRT", "SIGBUS", "SIGFPE", "SIGKILL",
    "SIGUSR1", "SIGSEGV", "SIGUSR2", "SIGPIPE", "SIGALRM", "SIGTERM", "SIGSTKFLT", "SIGCHLD",
    "SIGCONT", "SIGSTOP", "SIGTSTP", "SIGTTIN", "SIGTTOU", "SIGURG", "SIGXCPU", "SIGXFSZ",
    "SIGVTALRM", "SIGPROF", "SIGWINCH", "SIGIO", "SIGPWR", "SIGSYS"]

def signalName? (signal : Nat) : Option String :=
  if signal = 0 then none else signalNames[signal - 1]?

/-- A signal by its number, and by its name if it has one. -/
def signalText (signal : Nat) : String :=
  Number.naturalText signal ++ ((signalName? signal).elim "" fun n => " (" ++ n ++ ")")

/-- A word as a signed number and as its bits. -/
def wordText (word : UInt32) : String :=
  let w := word.toNat
  Number.integerText (if w < Nat.pow 2 31 then w else (w : Int) - Nat.pow 2 32) ++ " 0x" ++
    String.ofList (Nat.toDigits 16 w)

def text : ExitStatus → String
  | .exited code => "exit status: " ++ Number.naturalText code
  | .signaled signal dumped =>
    "signal: " ++ signalText signal ++ (if dumped then " (core dumped)" else "")
  | .stopped signal => "stopped (not terminated) by signal: " ++ signalText signal
  | .continued => "continued (WIFCONTINUED)"
  | .unrecognised word => "unrecognised wait status: " ++ wordText word

end ExitStatus

/-- How a program ended and what it wrote. -/
structure Outcome where
  status : ExitStatus
  stdout : String
  stderr : String
deriving DecidableEq

/-- Everything a program wrote, its standard output first. -/
def Outcome.combined (o : Outcome) : String := o.stdout ++ o.stderr

inductive CommandError where
  | empty
  | io (cause : Cause)
  | nonZero (command : String) (outcome : Outcome)
deriving DecidableEq

def CommandError.message : CommandError → String
  | .empty => "empty commmand provided"
  | .io cause => "io error: " ++ cause.message
  | .nonZero command outcome =>
    "`" ++ command ++ "` exited with " ++ outcome.status.text ++ ": " ++ Text.trim outcome.combined

/-- Runs a command line on a machine that knows how programs start and end. -/
def runCommand {σ : Type} (start : String → List String → σ → Except Cause Outcome × σ) :
    List String → σ → Except CommandError Outcome × σ
  | [], w => (.error .empty, w)
  | program :: args, w =>
    match start program args w with
    | (.error cause, w) => (.error (.io cause), w)
    | (.ok outcome, w) =>
      (if outcome.status.isSuccess then .ok outcome
        else .error (.nonZero (Text.joinWith " " (program :: args)) outcome), w)

/-- Runs command lines one after the other, up to the first that fails. -/
def runCommands {σ : Type} (start : String → List String → σ → Except Cause Outcome × σ) :
    List (List String) → σ → Except CommandError Unit × σ
  | [], w => (.ok (), w)
  | command :: commands, w =>
    match runCommand start command w with
    | (.error e, w) => (.error e, w)
    | (.ok _, w) => runCommands start commands w

end TrafficShaping
