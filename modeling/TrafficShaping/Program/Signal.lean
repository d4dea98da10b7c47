import TrafficShaping.Program

/-!
# Signals

A signal ends a process that has made no other arrangement, unless it is one that does nothing by default
or one that stops a process. Signals go by numbers and by names, and the end that one brings has a
description.
-/

namespace TrafficShaping.Program.Signal

/-- The first and the last of the signals that have no meaning of their own, and the first of the upper half
of them, which are named from their end. -/
def firstReal : Nat := 34

def lastReal : Nat := 64

def upperReal : Nat := 50

/-- The name of a signal as shells use it; 0 is the end of the shell. -/
def name (signal : Nat) : String :=
  let number := Number.naturalText
  let beside (base sign : String) (n : Nat) : String := base ++ (if n = 0 then "" else sign ++ number n)
  if signal = 0 then "EXIT"
  else if signal = 16 ∨ lastReal < signal then number signal
  else if upperReal ≤ signal then beside "RTMAX" "-" (lastReal - signal)
  else if firstReal ≤ signal then beside "RTMIN" "+" (signal - firstReal)
  else (ExitStatus.signalName? signal).elim (number signal) fun n => (n.drop 3).toString

/-- The signal that a text names, by number or by name in either case. -/
def ofText? (s : String) : Option Nat :=
  match Number.natural? s.toList with
  | some n => if n ≤ lastReal then some n else none
  | none => (List.range (lastReal + 1)).find? fun n => name n = s.map Char.toUpper

/-- The signals that do nothing by default, and those that stop a process. -/
def isHarmless (signal : Nat) : Bool := [0, 17, 18, 19, 20, 21, 22, 23, 28].contains signal

/-- The signal that tells a process that one it has started has ended. -/
def childEnded : Nat := 17

/-- The signal that a process is sent whose arithmetic has no result. -/
def arithmetic : Nat := 8

/-- The signals that no arrangement can be made for. -/
def isCertain (signal : Nat) : Bool := signal = 9 || signal = 19

/-- The descriptions of the signals from 1 on. -/
def descriptions : List String :=
  ["Hangup", "Interrupt", "Quit", "Illegal instruction", "Trace/breakpoint trap", "Aborted", "Bus error",
    "Floating point exception", "Killed", "User defined signal 1", "Segmentation fault",
    "User defined signal 2", "Broken pipe", "Alarm clock", "Terminated", "Stack fault", "Child exited",
    "Continued", "Stopped (signal)", "Stopped", "Stopped (tty input)", "Stopped (tty output)",
    "Urgent I/O condition", "CPU time limit exceeded", "File size limit exceeded",
    "Virtual timer expired", "Profiling timer expired", "Window changed", "I/O possible",
    "Power failure", "Bad system call"]

def description (signal : Nat) : String :=
  ((if signal = 0 then none else descriptions[signal - 1]?)).getD
    ("Real-time signal " ++ Number.naturalText (signal - firstReal))

/-- What a shell says about a program that a signal ended; for two signals it says nothing. -/
def notice? (signal : Nat) : Option String :=
  if signal = 2 ∨ signal = 13 then none else some (description signal)

end TrafficShaping.Program.Signal
