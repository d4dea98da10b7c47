import TrafficShaping.Program.Signal
import TrafficShaping.Program.Utility.Lines
import TrafficShaping.Program.Utility.Names
import TrafficShaping.Program.Utility.Numbers

/-!
# Programs that run programs

Some programs are given the words of another one and run it: with other parameters, for a limited time, or
with words that they have read. Here their own words are read; what comes of them is an order that somebody
who can run programs carries out.
-/

namespace TrafficShaping.Program

open Utility

/-- A change to what programs are told of the parameters. -/
inductive Change where
  | clear
  | forget (name : String)
  | give (name value : String)

/-- What is left to do: the work of a utility, or a program to run with its words. A program may be given a
time, in millionths of a second, with what is done when that is over: a utility, or an end by a signal. -/
inductive Task where
  | work (u : Utility)
  | command (words : List String)
  | limited (most : Nat) (late : Except Nat Utility) (words : List String)

structure Order where
  changes : List Change := []
  task : Task

namespace Order

/-- Complains about how a program was called, and runs nothing. -/
def refused (name : String) (code : Nat) (complaint : String) : Order where
  task := .work fun _ => misused name code complaint

/-- Complains without a word about documentation. -/
def failed (name : String) (code : Nat) (complaint : String) : Order where
  task := .work fun _ => failing code (name ++ ": " ++ complaint)

/-- Reads options, and makes an order of what they say. -/
def withOptions (name : String) (code : Nat) (o : Options) (order : Given → Order) (ws : List String) : Order :=
  match o.read ws with
  | .error e => refused name code (optionComplaint e)
  | .ok g => order g

/-! ## Other parameters -/

/-- An assignment at the start of words, as a name and a value. -/
def assignment? (w : String) : Option (String × String) :=
  if w.contains '=' then
    let name := w.toList.takeWhile (· ≠ '=')
    some (String.ofList name, String.ofList (w.toList.drop (name.length + 1)))
  else none

def env : List String → Order := withOptions "env" 125
  { letters := "0iu:v"
    names := [("ignore-environment", 'i'), ("unset", 'u'), ("null", '0')]
    areInFront := true } fun g =>
  let forgotten := (g.options.filter (·.1 = 'u')).map (·.2)
  let (clears, words) := match g.operands with
    | "-" :: ws => (true, ws)
    | ws => (g.has 'i', ws)
  let given := (words.takeWhile fun w => (assignment? w).isSome).filterMap assignment?
  let words := words.drop given.length
  match forgotten.find? fun n => n = "" || n.contains '=' with
  | some n => failed "env" 125 ("cannot unset " ++ quoted n ++ ": Invalid argument")
  | none =>
    if words ≠ [] && g.has '0' then refused "env" 125 "cannot specify --null (-0) with command"
    else
      { changes := (if clears then [.clear] else []) ++ forgotten.map .forget ++ given.map fun p => .give p.1 p.2
        task :=
          if words = [] then .work fun c => printenv { c with arguments := if g.has '0' then ["-0"] else [] }
          else .command words }

/-! ## Another standing -/

def nice (ws : List String) : Order :=
  let ws := match ws with
    | w :: rest =>
      match w.toList with
      | '-' :: d :: ds => if (d :: ds).all Char.isDigit then "-n" :: String.ofList (d :: ds) :: rest else ws
      | _ => ws
    | [] => []
  withOptions "nice" 125 { letters := "n:", names := [("adjustment", 'n')], areInFront := true } (fun g =>
    match g.value? 'n', g.operands with
    | some n, [] =>
      if (integer? n).isNone then failed "nice" 125 ("invalid adjustment " ++ quoted n)
      else refused "nice" 125 "a command must be given with an adjustment"
    | none, [] => { task := .work fun _ => writing "0\n" }
    | adjustment, words =>
      if adjustment.any fun n => (integer? n).isNone then
        failed "nice" 125 ("invalid adjustment " ++ quoted (adjustment.getD ""))
      else { task := .command words }) ws

def nohup : List String → Order := withOptions "nohup" 125 { letters := "", areInFront := true } fun g =>
  if g.operands = [] then refused "nohup" 125 "missing operand" else { task := .command g.operands }

def setsid : List String → Order := withOptions "setsid" 1
  { letters := "cfw", names := [("ctty", 'c'), ("fork", 'f'), ("wait", 'w')], areInFront := true } fun g =>
  if g.operands = [] then refused "setsid" 1 "no command specified" else { task := .command g.operands }

/-! ## A limited time -/

/-- What is done about a command whose time is over: it gets a signal. -/
def interrupted (g : Given) (signal : Nat) (command : String) : Except Nat Utility :=
  let complaint :=
    if g.has 'v' then
      "timeout: sending signal " ++ Signal.name signal ++ " to command " ++ quoted command ++ "\n"
    else ""
  if signal = 9 then .error 9
  else .ok fun _ => { code := if g.has 'p' then 128 + signal else 124, err := complaint }

def timeout : List String → Order := withOptions "timeout" 125
  { letters := "fk:ps:v"
    names := [("kill-after", 'k'), ("signal", 's'), ("foreground", 'f'), ("preserve-status", 'p'), ("verbose", 'v')]
    areInFront := true } fun g =>
  let wrongTime (s : String) : Order := refused "timeout" 125 ("invalid time interval " ++ quoted s)
  let name := (g.value? 's').getD "TERM"
  match (g.value? 'k').filter fun t => (interval? t).isNone with
  | some t => wrongTime t
  | none =>
    match Signal.ofText? ((Text.stripStart? "SIG" name).getD name), g.operands with
    | none, _ => refused "timeout" 125 (quoted name ++ ": invalid signal")
    | _, [] | _, [_] => { task := .work fun _ => failing 125 (hint "timeout") }
    | some signal, time :: command =>
      match interval? time with
      | none => wrongTime time
      | some limit =>
        if limit = 0 then { task := .command command }
        else { task := .limited (1000 * limit) (interrupted g signal (command.head?.getD "")) command }

/-- The order that a program makes of its words, if it is one that runs programs. -/
def ofProgram? (name : String) (ws : List String) : Option Order :=
  match name with
  | "env" => some (env ws)
  | "nice" => some (nice ws)
  | "nohup" => some (nohup ws)
  | "setsid" => some (setsid ws)
  | "timeout" => some (timeout ws)
  | _ => none

/-- What a program says about a command that cannot be started, and its code. -/
def refusal (name command : String) (e : Errno) : String :=
  match name with
  | "xargs" => "xargs: " ++ command ++ ": " ++ e.description
  | "setsid" => "setsid: failed to execute " ++ command ++ ": " ++ e.description
  | "timeout" | "nohup" => name ++ ": failed to run command " ++ quoted command ++ ": " ++ e.description
  | name => name ++ ": " ++ quoted command ++ ": " ++ e.description

end Order

/-! ## Words that are shared out -/

/-- How words that are read are given to commands: how many words or lines at a time, and what stands for
them. -/
structure Sharing where
  most : Option Nat := none
  mostLines : Option Nat := none
  hole : Option String := none
  delimiter : Option Char := none
  needsWords : Bool := false
  tells : Bool := false
  command : List String := ["echo"]

namespace Sharing

/-- Reads the options of `xargs`. -/
def ofWords (ws : List String) : Except String Sharing := do
  let o : Options := {
    letters := "0ad:E:I:i:L:n:oP:prs:tx"
    names := [("null", '0'), ("max-args", 'n'), ("max-lines", 'L'), ("replace", 'I'), ("no-run-if-empty", 'r'),
      ("delimiter", 'd'), ("verbose", 't'), ("max-procs", 'P')]
    areInFront := true }
  let g ← (o.read ws).mapError optionComplaint
  let count (letter : Char) : Except String (Option Nat) :=
    let option := " for -" ++ letter.toString ++ " option"
    match g.value? letter with
    | none => .ok none
    | some v =>
      match Number.natural? v.toList with
      | none => .error ("invalid number \"" ++ v ++ "\"" ++ option)
      | some 0 => .error ("value 0" ++ option ++ " should be >= 1")
      | some n => .ok (some n)
  return {
    most := ← count 'n'
    mostLines := ← count 'L'
    hole := g.value? 'I'
    delimiter := if g.has '0' then some '\x00' else (g.value? 'd').bind fun d =>
      match d.toList with
      | ['\\', 'n'] => some '\n'
      | ['\\', 't'] => some '\t'
      | ['\\', '0'] => some '\x00'
      | cs => cs.head?
    needsWords := g.has 'r'
    tells := g.has 't'
    command := if g.operands = [] then ["echo"] else g.operands }

/-- The words of a text: they are separated by blanks and can be quoted. The answer is the mark of a quote that
is not closed, if there is one. -/
def quotedWords (s : String) : Except Char (List String) := go none none s.toList
where
  finished (word : Option (List Char)) : List String := (word.map fun cs => String.ofList cs.reverse).toList
  go (word : Option (List Char)) (quote : Option Char) : List Char → Except Char (List String)
    | [] =>
      match quote with
      | some q => .error q
      | none => .ok (finished word)
    | c :: cs =>
      match quote with
      | some q =>
        if c = q then go (some (word.getD [])) none cs
        else if c = '\n' then .error q
        else go (some (c :: word.getD [])) quote cs
      | none =>
        if c = ' ' ∨ c = '\t' ∨ c = '\n' then do return finished word ++ (← go none none cs)
        else if c = '\'' ∨ c = '"' then go (some (word.getD [])) (some c) cs
        else match c, cs with
          | '\\', d :: cs => go (some (d :: word.getD [])) none cs
          | c, cs => go (some (c :: word.getD [])) none cs

/-- The commands that come of the words in a text; otherwise a complaint. -/
def commands (s : Sharing) (input : String) : Except String (List (List String)) := do
  let unmatched (q : Char) : String :=
    "unmatched " ++ (if q = '"' then "double" else "single") ++
      " quote; by default quotes are special to xargs unless you use the -0 option"
  let trimmed (l : String) : String := Text.trimStartOf '\t' (Text.trimStartOf ' ' l)
  let words ← match s.delimiter with
    | some d =>
      let pieces := Text.splitAt d input
      pure (if pieces.getLast? = some "" then pieces.dropLast else pieces)
    | none =>
      if s.hole.isSome then pure ((linesOf input).map trimmed |>.filter (· ≠ ""))
      else (quotedWords input).mapError unmatched
  match s.hole, s.mostLines, s.most with
  | some hole, _, _ => return words.map fun w => s.command.map fun c => c.replace hole w
  | none, some n, _ => do
    let rows ← (linesOf input).mapM fun l => (quotedWords l).mapError unmatched
    let rows := rows.filter (· ≠ [])
    return (piecesOf n rows.length rows).map fun rows => s.command ++ rows.flatten
  | none, none, some n => return (piecesOf n words.length words).map (s.command ++ ·)
  | none, none, none => return if words = [] ∧ s.needsWords then [] else [s.command ++ words]

end Sharing

end TrafficShaping.Program
