import TrafficShaping.Program.Shell.Fields
import TrafficShaping.Program.Shell.State
import TrafficShaping.Program.Utility.Condition
import TrafficShaping.Program.Utility.Format

/-!
# The commands of a shell

A shell has commands of its own, which work on its state or are common enough not to be left to programs.
Some of them are special: a failure in them ends the shell, and assignments in front of them last. The
commands that run other commands are not here.
-/

namespace TrafficShaping.Program

abbrev Builtin := List String → Run Unit

namespace Builtin

open Shell

/-! ## Writing and reading words -/

/-- Writes a text and ends with a code. -/
def sayWith (code : Nat) (s : String) : Run Unit := do
  match ← write 1 s with
  | .ok () => setCode code
  | .error _ => do
    complain ((← get).command.getD "" ++ ": I/O error")
    setCode 1

/-- Writes a text and succeeds. -/
def say : String → Run Unit := sayWith 0

/-- The number that a word is. -/
def number (s : String) : Run Nat := do
  match (Number.natural? s.toList).filter (· < Nat.pow 2 31) with
  | some n => return n
  | none => fail ("Illegal number: " ++ s)

/-- Takes the options off the words that a command is given. -/
def options (letters : String) (ws : List String) : Run (List (Char × String) × List String) :=
  match ({ letters, areInFront := true } : Options).read ws with
  | .ok g => return (g.options, g.operands)
  | .error (.unknown c) => fail ("Illegal option -" ++ c.toString)
  | .error (.noValue c) => fail ("No arg for -" ++ c.toString ++ " option")
  | .error _ => fail "Illegal option --"

/-- What a program would be given here. -/
def callOf (arguments : List String) (input : String) : Run Call := do
  let st ← get
  let output := match st.streams.lookup 1 with
    | some (.file l) => some l
    | _ => none
  return {
    arguments, input, output
    environment := environment st, disk := st.world.disk, directory := st.directory }

/-! ## Words and conditions -/

def echo : Builtin := fun ws =>
  let (ends, ws) := match ws with
    | "-n" :: ws => (false, ws)
    | ws => (true, ws)
  say (Utility.echoed (some { octalAfterZero := true, octal := true, stop := true }) ends ws)

def printf : Builtin := fun ws => do
  let (_, ws) ← options "" ws
  match ws with
  | [] => fail "usage: printf format [arg ...]"
  | format :: values => do
    let r := Utility.printfBy (Utility.shellDialect (complaint (← get))) format values
    let _ ← write 2 r.err
    sayWith r.code r.out

def judge (ws : List String) : Run Unit := do
  match Condition.holds (← callOf ws "") ws with
  | .ok b => setCode (if b then 0 else 1)
  | .error e => fail e.message

def bracket : Builtin := fun ws =>
  if ws.getLast? = some "]" then judge ws.dropLast else fail "missing ]"

/-! ## Directories -/

/-- A path without dots, of which two take back the step before them. Two slashes at its start, but no more, are
not the same as one. -/
def simplified (path : String) : String :=
  let hasTwo := path.startsWith "//" && !path.startsWith "///"
  let steps := (Text.splitAt '/' path).foldl (fun (steps : List String) s =>
    if s = "" ∨ s = "." then steps else if s = ".." then steps.tail else s :: steps) []
  (if hasTwo then "//" else "/") ++ Text.joinWith "/" steps.reverse

/-- Where a directory is found that is named from none: the first place in a list where it is, and whether that
is not the place itself. -/
def placeIn (st : Shell) (target : String) : String × Bool :=
  let first := (Text.splitAt '/' target).headD ""
  let isThere (path : String) : Bool :=
    (st.world.disk.find st.directory path).toOption.any st.world.disk.tree.isDirectory
  let places := if first = "" ∨ first = "." ∨ first = ".." then [] else
    ((lookup st "CDPATH").map (Text.splitAt ':')).getD []
  match places.find? fun p => isThere (if p = "" then target else p ++ "/" ++ target) with
  | none | some "" => (target, false)
  | some p => (p ++ "/" ++ target, true)

def cd : Builtin := fun ws => do
  let (os, ws) ← options "LP" ws
  let st ← get
  let (target, goesBack) := match ws with
    | [] => ((lookup st "HOME").getD "", false)
    | "-" :: _ => ((lookup st "OLDPWD").getD "", true)
    | w :: _ => (w, false)
  let given := target
  let (target, isElsewhere) := placeIn st (if target = "" then "." else target)
  let shows := goesBack || isElsewhere
  let path := simplified (if target.startsWith "/" then target
    else st.path ++ (if st.path.endsWith "/" then "" else "/") ++ target)
  let isPhysical := (os.getLast?.map (·.1)) = some 'P'
  match st.world.disk.find st.directory (if isPhysical then target else path) with
    | .error _ => fail ("can't cd to " ++ given)
    | .ok l =>
      if !st.world.disk.tree.isDirectory l then fail ("can't cd to " ++ given)
      else do
        let path := if isPhysical then Disk.pathOf l else path
        set { st with directory := l, path }
        assignExported "OLDPWD" st.path
        assignExported "PWD" path
        say (if shows then path ++ "\n" else "")

def pwd : Builtin := fun ws => do
  let (os, _) ← options "LP" ws
  let st ← get
  say ((if (os.getLast?.map (·.1)) = some 'P' then Disk.pathOf st.directory else st.path) ++ "\n")

/-! ## Reading -/

/-- A name and, after an equals sign, a value. -/
def nameAndValue (w : String) : Run (String × Option String) := do
  let name := String.ofList (w.toList.takeWhile (· ≠ '='))
  if !isName name then fail (name ++ ": bad variable name")
  return (name, if w.contains '=' then some (String.ofList (w.toList.drop (name.length + 1))) else none)

/-- Takes a line off a text, and says whether it had an end. A backslash quotes the character after it, or
joins two lines, unless the line is raw. -/
def takeLine (isRaw : Bool) : List Char → List Item × List Char × Bool
  | [] => ([], [], false)
  | '\n' :: cs => ([], cs, true)
  | '\\' :: '\n' :: cs =>
    if isRaw then ([.loose '\\'], cs, true)
    else
      let (line, rest) := takeLine isRaw cs
      (.region false :: line, rest)
  | '\\' :: c :: cs =>
    if isRaw then
      let (line, rest) := takeLine isRaw (c :: cs)
      (.loose '\\' :: line, rest)
    else
      let (line, rest) := takeLine isRaw cs
      (.kept c :: .region false :: line, rest)
  | c :: cs =>
    let (line, rest) := takeLine isRaw cs
    (if c = '\x00' ∨ (c = '\\' ∧ !isRaw) then line else .loose c :: line, rest)

def read : Builtin := fun ws => do
  let (os, names) ← options "p:r" ws
  if names = [] then fail "arg count"
  let (line, rest, hasEnd) := takeLine (os.any (·.1 = 'r')) (← readable 0).toList
  leave 0 (String.ofList rest)
  let st ← get
  let fields := Fields.shared (separators st) names.length line
  for (name, value) in names.zip (fields ++ List.replicate names.length "") do
    assign (← nameAndValue name).1 value
  setCode (if hasEnd then 0 else 1)

/-! ## Parameters -/

/-- Changes what is known of a parameter. -/
def declare (name : String) (change : Parameter → Parameter) : Run Unit := modify fun st =>
  { st with parameters :=
      (name, change ((st.parameters.lookup name).getD {})) :: st.parameters.filter (·.1 != name) }

def inOrder (parameters : List (String × Parameter)) : List (String × Parameter) :=
  parameters.mergeSort fun a b => decide (a.1 ≤ b.1)

/-- The parameters of a kind, as commands that declare them. -/
def declarations (command : String) (ps : List (String × Parameter)) : String :=
  String.join ((inOrder ps).map fun p =>
    command ++ p.1 ++ (p.2.value.elim "" fun v => "=" ++ singleQuoted v) ++ "\n")

/-- Declares parameters, or lists those that are declared. -/
def declaring (command : String) (isDeclared : Parameter → Bool) (change : Parameter → Parameter) : Builtin :=
  fun ws => do
    let (os, ws) ← options "p" ws
    if os ≠ [] ∨ ws = [] then
      say (declarations (command ++ " ") ((← get).parameters.filter fun p => isDeclared p.2))
    else do
      for w in ws do
        let (name, value) ← nameAndValue w
        if let some v := value then assign name v
        declare name change
      setCode 0

def markExported : Builtin := declaring "export" (·.isExported) fun p => { p with isExported := true }

def markReadOnly : Builtin := declaring "readonly" (·.isReadOnly) fun p => { p with isReadOnly := true }

def unset : Builtin := fun ws => do
  let (os, names) ← options "fv" ws
  for name in names do
    if os.any (·.1 = 'f') then
      modify fun st => { st with functions := st.functions.filter (·.1 != name) }
    else do
      let (name, _) ← nameAndValue name
      if ((← get).parameters.lookup name).any (·.isReadOnly) then fail (name ++ ": is read only")
      if name = placeName then goToOption ""
      modify fun st => { st with parameters := st.parameters.filter (·.1 != name) }
  setCode 0

/-- Makes parameters local to the function that is running. -/
def makeLocal : Builtin := fun ws => do
  if (← get).hidden = [] then fail "not in a function"
  for w in ws do
    let (name, value) ← nameAndValue w
    modify fun st =>
      match st.hidden with
      | frame :: frames =>
        if frame.any (·.1 = name) then st
        else { st with hidden := ((name, st.parameters.lookup name) :: frame) :: frames }
      | [] => st
    if let some v := value then assign name v
  setCode 0

def shift : Builtin := fun ws => do
  let n ← match ws with
    | [] => pure 1
    | w :: _ => number w
  if (← get).arguments.length < n then fail "can't shift that many"
  modify fun st => { st with arguments := st.arguments.drop n, optionPlace := (1, none) }
  setCode 0

/-! ## Options -/

/-- The options of a shell by their names, in order. Two of them have no letter. -/
def optionNames : List (String × Char) :=
  [("errexit", 'e'), ("noglob", 'f'), ("ignoreeof", 'I'), ("interactive", 'i'), ("monitor", 'm'),
    ("noexec", 'n'), ("stdin", 's'), ("xtrace", 'x'), ("verbose", 'v'), ("vi", 'V'), ("emacs", 'E'),
    ("noclobber", 'C'), ("allexport", 'a'), ("notify", 'b'), ("nounset", 'u'),
    ("privileged", 'p'), ("nolog", '\x01'), ("debug", '\x02')]

/-- Turns an option on or off; options are kept in the order in which they are told. -/
def setOption (isOn : Bool) (o : Char) : Run Unit := do
  if !(optionNames.any (·.2 = o)) then
    fail ("Illegal option -" ++ o.toString)
  if isOn && o = 'm' then complain "can't access tty; job control turned off"
  else modify fun st =>
    let other := if o = 'V' then 'E' else if o = 'E' then 'V' else o
    let on := if isOn then o :: st.options.filter (· ≠ other) else st.options.filter (· ≠ o)
    { st with options := (optionNames.map (·.2)).reverse.filter on.contains }

def setNamedOption (isOn : Bool) (name : String) : Run Unit := do
  match optionNames.lookup name with
  | some o => setOption isOn o
  | none => fail ("Illegal option -o " ++ name)

/-- The options with their settings, for a reader or as commands. -/
def settings (st : Shell) (forReader : Bool) : String :=
  if forReader then
    "Current option settings\n" ++ String.join (optionNames.map fun o =>
      o.1 ++ "".pushn ' ' (16 - o.1.length) ++ (if hasOption st o.2 then "on\n" else "off\n"))
  else String.join (optionNames.map fun o => "set " ++ (if hasOption st o.2 then "-" else "+") ++ "o " ++ o.1 ++ "\n")

/-- Reads options, and returns the arguments after them if there are any. -/
def readOptions : List String → Run (Option (List String))
  | [] => return none
  | w :: ws =>
    match w.toList, ws with
    | ['-', '-'], ws => return some ws
    | ['-'], ws => do
      setOption false 'x'
      setOption false 'v'
      return if ws = [] then none else some ws
    | [sign, 'o'], name :: ws =>
      if sign = '-' ∨ sign = '+' then do
        setNamedOption (sign = '-') name
        readOptions ws
      else return some (w :: name :: ws)
    | [sign, 'o'], [] =>
      if sign = '-' ∨ sign = '+' then do
        say (settings (← get) (sign = '-'))
        return none
      else return some [w]
    | sign :: c :: cs, ws =>
      if sign = '-' ∨ sign = '+' then do
        for c in c :: cs do setOption (sign = '-') c
        readOptions ws
      else return some (w :: ws)
    | _, ws => return some (w :: ws)

def setAll : Builtin := fun ws => do
  if ws = [] then
    say (declarations "" ((← get).parameters.filter fun p => p.2.value.isSome))
  else do
    setCode 0
    if let some arguments := ← readOptions ws then
      modify fun st => { st with arguments, optionPlace := (1, none) }

/-- What follows a letter in a list of option letters, if the letter is in it. A colon behind another letter is
none itself. -/
def afterLetter? (c : Char) : List Char → Option (List Char)
  | [] => none
  | q :: qs =>
    if q = c then some qs
    else match qs with
      | ':' :: qs => afterLetter? c qs
      | qs => afterLetter? c qs

/-- Reads the next option of the arguments, and sets a parameter to its letter. -/
def getopts : Builtin := fun ws => do
  match ws with
  | letters :: name :: given => do
    let st ← get
    let words := if given = [] then st.arguments else given
    let (index, offset) := if words.length + 1 < st.optionPlace.1 then (1, none) else st.optionPlace
    let isSilent := letters.startsWith ":"
    let left : List Char := match offset with
      | some offset => if index = 1 then [] else ((words[index - 2]?).getD "").toList.drop offset
      | none => []
    let finish (index : Nat) (offset : Option Nat) (letter : String) (value : Option String) (code : Nat) :
        Run Unit := do
      match value with
      | some v => assign "OPTARG" v
      | none => if code = 0 then modify fun st => { st with parameters := st.parameters.filter (·.1 != "OPTARG") }
      assign placeName (Number.naturalText index)
      modify fun st => { st with optionPlace := (index, offset) }
      assign (← nameAndValue name).1 letter
      setCode code
    let (index, left) : Nat × Option (List Char) :=
      if left ≠ [] then (index, some left)
      else match (words[index - 1]?).map String.toList with
        | some ['-', '-'] => (index + 1, none)
        | some ('-' :: c :: cs) => (index + 1, some (c :: cs))
        | _ => (index, none)
    match left with
    | none | some [] => finish index none "?" none 1
    | some (c :: cs) =>
      let offset := if cs = [] then none else some (((words[index - 2]?).getD "").length - cs.length)
      match afterLetter? c letters.toList, cs with
      | none, _ =>
        if isSilent then finish index offset "?" (some c.toString) 0
        else do
          let _ ← write 2 ("Illegal option -" ++ c.toString ++ "\n")
          finish index offset "?" none 0
      | some (':' :: _), [] =>
        match words[index - 1]? with
        | some v => finish (index + 1) none c.toString (some v) 0
        | none =>
          if isSilent then finish index none ":" (some c.toString) 0
          else do
            let _ ← write 2 ("No arg for -" ++ c.toString ++ " option\n")
            finish index none "?" none 0
      | some (':' :: _), cs => finish index none c.toString (some (String.ofList cs)) 0
      | some _, _ => finish index offset c.toString (some "") 0
  | _ => fail "Usage: getopts optstring var [arg...]"

/-! ## Signals and processes -/

/-- The traps as commands that set them. -/
def trapList (st : Shell) : String :=
  String.join (((List.range (Signal.lastReal + 1)).filterMap fun s => (st.traps.lookup s).map fun text =>
    "trap -- " ++ singleQuoted text ++ " " ++ Signal.name s ++ "\n"))

/-- Arranges for signals; without an action in front of them arrangements are taken back. -/
def trap : Builtin := fun ws => do
  let (_, ws) ← options "" ws
  match ws with
  | [] => say (trapList (← get))
  | w :: ws => do
    let (action, signals) :=
      if ws = [] ∨ (Number.natural? w.toList).isSome then (none, w :: ws)
      else (if w = "-" then none else some w, ws)
    setCode 0
    go action signals
where
  go (action : Option String) : List String → Run Unit
    | [] => return
    | w :: ws =>
      match Signal.ofText? w with
      | none => do
        let _ ← write 2 ("trap: " ++ w ++ ": bad trap\n")
        setCode 1
      | some s => do
        modify fun st =>
          let others := st.traps.filter (·.1 != s)
          { st with traps := match action with
            | some text => (s, text) :: others
            | none => others }
        go action ws

/-- The job that a word names: the last one, the one before it, or one by its number. -/
def jobOf (w : String) : Run Job := do
  let jobs := (← get).jobs
  match w.toList with
  | ['%'] | ['%', '%'] | ['%', '+'] => needed jobs.head? "No current job"
  | ['%', '-'] => needed (jobs[1]?) "No previous job"
  | '%' :: digits => needed (jobs.find? fun j => Number.natural? digits = some j.number) ("No such job: " ++ w)
  | _ => fail ("No such job: " ++ w)
where
  needed (j : Option Job) (complaint : String) : Run Job := do
    match j with
    | some j => return j
    | none => fail complaint

/-- Sends a signal to processes. A job that is named is no group of processes, to which it would be sent. -/
def killAll (signal : Nat) : List String → Run Unit
  | [] => return
  | w :: ws => do
    let process ← if w.startsWith "%" then (fun _ => 0) <$> jobOf w
      else if w.startsWith "-" then (fun _ => 0) <$> number (w.drop 1).toString
      else number w
    if ← send process signal then do
      takeSignals
      killAll signal ws
    else do
      complain "No such process\n"
      killAll signal ws
      setCode 1

def killUsage {α : Type} : Run α :=
  fail "Usage: kill [-s sigspec | -signum | -sigspec] [pid | job]... or\nkill -l [exitstatus]"

/-- Tells the names of signals. -/
def signalNames : List String → Run Unit
  | [] => say ("0\n" ++ Utility.lines ((List.range Signal.lastReal).map fun n => Signal.name (n + 1)))
  | w :: _ => do
    let n ← number w
    let n := if 128 < n then n - 128 else n
    if 0 < n ∧ n ≤ Signal.lastReal then say (Signal.name n ++ "\n")
    else fail ("invalid signal number or exit status: " ++ w)

/-- The signal that a word names which is to be sent. The end of the shell is none, although 0 is. -/
def sentSignal? (w : String) : Option Nat :=
  (Signal.ofText? w).filter fun n => n ≠ 0 || (Number.natural? w.toList).isSome

def kill : Builtin := fun ws => do
  let direct := (ws.head?.filter (·.startsWith "-")).bind fun w => sentSignal? (w.drop 1).toString
  match direct with
  | some signal => if ws.tail = [] then killUsage else toAll signal ws.tail
  | none => do
    let (os, rest) ← options "ls:" ws
    if os.any (·.1 = 'l') then signalNames rest
    else do
      let signal ← match os.getLast? with
        | none => pure 15
        | some (_, name) =>
          match sentSignal? name with
          | some s => pure s
          | none => fail ("invalid signal number or name: " ++ name)
      if rest = [] then killUsage else toAll signal rest
where
  toAll (signal : Nat) (ws : List String) : Run Unit := do
    setCode 0
    killAll signal ws

/-- The exit code that stands for how a program ended. -/
def codeOf : ExitStatus → Nat
  | .exited code => code
  | .signaled signal _ => 128 + signal
  | _ => 0

/-- Tells that a signal ended a program. -/
def notice : ExitStatus → Run Unit
  | .signaled signal _ => do
    if let some s := Signal.notice? signal then
      let _ ← write 2 (s ++ "\n")
  | _ => return

/-- Lets time go on until jobs have ended. -/
def waitFor (isMeant : Job → Bool) : Run Unit := modify fun st =>
  let jobs := st.jobs.map fun j => if isMeant j then { j with isOver := true } else j
  { st with jobs, world.now := ((st.jobs.filter isMeant).map (·.ending)).foldl max st.world.now }

def wait : Builtin := fun ws => do
  let (_, ws) ← options "" ws
  setCode 0
  if ws = [] then waitFor fun _ => true
  for w in ws do
    let process ← if w.startsWith "%" then (·.process) <$> jobOf w else number w
    match (← get).jobs.find? (·.process = process) with
    | some j => do
      waitFor (·.process = process)
      if !j.isOver then notice j.status
      setCode (codeOf j.status)
    | none => setCode 127
  takeSignals

/-- How a job is doing. -/
def jobState (now : Nat) (j : Job) : String :=
  if now < j.ending then "Running"
  else match j.status with
    | .signaled signal _ => Signal.description signal
    | .exited 0 => "Done"
    | status => "Done(" ++ Number.naturalText (codeOf status) ++ ")"

/-- Tells of jobs, with their processes if they are wanted. A job that has ended is then forgotten. -/
def jobs : Builtin := fun ws => do
  let (os, ws) ← options "lp" ws
  let st ← get
  let meant ← if ws = [] then pure st.jobs else ws.mapM jobOf
  setCode 0
  for j in meant do
    let place := (← get).jobs.findIdx (·.number = j.number)
    let sign := if place = 0 then "+ " else if place = 1 then "- " else "  "
    let process := Number.naturalText j.process
    let head := "[" ++ Number.naturalText j.number ++ "] " ++ sign ++ (if os.any (·.1 = 'l') then process ++ " " else "") ++
      jobState st.world.now j
    let line := head ++ "".pushn ' ' (max 1 (33 - head.length)) ++ String.join (List.replicate (j.parts - 1) " | ")
    say ((if os.any (·.1 = 'p') then process else line) ++ "\n")
    if j.ending ≤ st.world.now then modify fun st => { st with jobs := st.jobs.filter (·.number ≠ j.number) }

/-- Says that there is no job to go on with. -/
def resume : Builtin := fun ws => do
  let _ ← jobOf (ws.head?.getD "%")
  fail ("job " ++ ws.head?.getD "(null)" ++ " not created under job control")

/-! ## Leaving -/

/-- The code that a command is given, or that of the last command. -/
def givenCode (ws : List String) : Run Nat := do
  match ws with
  | [] => return (← get).code
  | w :: _ => number w

def exit : Builtin := fun ws => do
  let code ← givenCode ws
  let st ← get
  throw (.exited (if ws = [] then st.beforeTrap.getD code else code))

def leaveFunction : Builtin := fun ws => do throw (.returned (← givenCode ws))

/-- Leaves so many loops, or as many as there are. -/
def leaveLoops (how : Nat → Leaving) : Builtin := fun ws => do
  let n ← match ws with
    | [] => pure 1
    | w :: _ => number w
  if n = 0 then fail ("Illegal number: " ++ ws.head?.getD "")
  setCode 0
  let loops := (← get).loops
  if loops ≠ 0 then throw (how (min n loops))

/-! ## The rest -/

/-- Permissions of three kinds of users as letters. -/
def permissions (mask : Nat) : String :=
  let letters (n : Nat) : String :=
    (if n / 4 % 2 = 0 then "r" else "") ++ (if n / 2 % 2 = 0 then "w" else "") ++ (if n % 2 = 0 then "x" else "")
  "u=" ++ letters (mask / 64) ++ ",g=" ++ letters (mask / 8) ++ ",o=" ++ letters mask

/-- Changes permissions as a word says: letters of users, then a sign and letters of permissions, again and
again. A comma ends what holds for some users. -/
def permitted? (before : Nat) : Nat → Nat → Nat → List Char → Option Nat
  | 0, _, now, _ => some now
  | n + 1, users, now, cs =>
    let letters := cs.takeWhile fun c => "augo".toList.contains c
    let named := letters.foldl (fun n c => n ||| ([('u', 0o100), ('g', 0o10), ('o', 1)].lookup c).getD 0o111) users
    let users := if named = 0 then 0o111 else named
    match cs.drop letters.length with
    | [] => some now
    | sign :: cs =>
      if !"=+-".toList.contains sign then none
      else
        let letters := cs.takeWhile fun c => "rwxugoXs".toList.contains c
        let value (c : Char) : Nat :=
          ([('r', 4), ('w', 2), ('x', 1), ('u', before / 64), ('g', before / 8), ('o', before),
            ('X', if before &&& 0o111 = 0 then 0 else 1)].lookup c).getD 0
        let meant := (letters.foldl (fun n c => n ||| value c) 0 % 8) * users
        let now := if sign = '+' then now ||| meant
          else (now &&& (0o777 ^^^ (if sign = '-' then meant else 7 * users))) ||| (if sign = '-' then 0 else meant)
        match cs.drop letters.length with
        | [] => some now
        | ',' :: cs => permitted? before n 0 now cs
        | c :: cs => if "=+-".toList.contains c then permitted? before n users now (c :: cs) else none

def umask : Builtin := fun ws => do
  let (os, ws) ← options "S" ws
  let st ← get
  let change (mask : Nat) : Run Unit := do
    set { st with umask := mask % 512 }
    setCode 0
  match ws with
  | [] =>
    say (if os ≠ [] then permissions st.umask ++ "\n"
      else Utility.padded 4 '0' (String.ofList (Nat.toDigits 8 st.umask)) ++ "\n")
  | w :: _ =>
    if w.toList.head?.any Char.isDigit then
      match w.toList.mapM (Utility.digitOf? 8) with
      | some ds => change (ds.foldl (fun n d => 8 * n + d) 0)
      | none => fail ("Illegal number: " ++ w)
    else
      let given := 0o777 ^^^ st.umask
      match permitted? given (w.length + 1) 0 given w.toList with
      | some now => change (0o777 ^^^ now)
      | none => fail ("Illegal mode: " ++ w)

def times : Builtin := fun _ => say "0m0.000000s 0m0.000000s\n0m0.000000s 0m0.000000s\n"

/-- What can be limited: its letter, what it is called, and its limit at first. -/
def resources : List (Char × String × Limit) :=
  [('t', "time(seconds)", {}), ('f', "file(blocks)", {}), ('d', "data(kbytes)", {}),
    ('s', "stack(kbytes)", { soft := some 8192 }), ('c', "coredump(blocks)", { soft := some 0 }),
    ('m', "memory(kbytes)", {}), ('l', "locked memory(kbytes)", ⟨some 8192, some 8192⟩),
    ('p', "process", ⟨some 128619, some 128619⟩), ('n', "nofiles", ⟨some 20000, some 20000⟩),
    ('v', "vmemory(kbytes)", {}), ('w', "locks", {}), ('r', "rtprio", ⟨some 0, some 0⟩)]

/-- Whether a limit is above another one. -/
def exceeds : Option Nat → Option Nat → Bool
  | _, none => false
  | none, some _ => true
  | some m, some n => n < m

/-- The limit of a resource. -/
def limitOf (st : Shell) (letter : Char) : Limit :=
  (st.limits.lookup letter).getD (((resources.lookup letter).map (·.2)).getD {})

/-- Sets limits and tells them. The upper limit is only ever lowered. -/
def ulimit : Builtin := fun ws => do
  let (os, ws) ← options "HSatfdscmlpnvwr" ws
  let letters := os.map (·.1)
  let letter := ((letters.filter fun c => !"HSa".toList.contains c).getLast?).getD 'f'
  let isHard := letters.contains 'H' || !letters.contains 'S'
  let isSoft := letters.contains 'S' || !letters.contains 'H'
  let st ← get
  let shown (letter : Char) : String :=
    let l := limitOf st letter
    ((if isSoft then l.soft else l.hard).elim "unlimited" Number.naturalText) ++ "\n"
  match ws with
  | [] =>
    if letters.contains 'a' then
      say (String.join (resources.map fun r => r.2.1 ++ "".pushn ' ' (20 - r.2.1.length) ++ " " ++ shown r.1))
    else say (shown letter)
  | w :: more => do
    if more ≠ [] ∨ letters.contains 'a' then fail "too many arguments"
    let number := if w = "" then some 0 else Number.natural? w.toList
    if w ≠ "unlimited" ∧ number = none then fail "bad number"
    let value := if w = "unlimited" then none else number
    let before := limitOf st letter
    let after : Limit := ⟨if isSoft then value else before.soft, if isHard then value else before.hard⟩
    if exceeds after.soft after.hard then fail "error setting limit (Invalid argument)"
    if exceeds after.hard before.hard then fail "error setting limit (Operation not permitted)"
    set { st with limits := (letter, after) :: st.limits.filter (·.1 ≠ letter) }
    setCode 0

/-! ## Aliases -/

/-- Tells an alias as the command says it that would make it. -/
def aliasLine (a : String × String) : String := a.1 ++ "=" ++ singleQuoted a.2

/-- Complains of what is no alias. -/
def missAlias (command name : String) : Run Unit := do
  let _ ← write 2 (command ++ ": " ++ name ++ " not found\n")
  setCode 1

/-- Where an alias is told among all of them: they are kept in 39 rows. -/
def aliasRow (name : String) : Nat :=
  let bytes := name.toList.map Char.toNat
  bytes.foldl (· + ·) (16 * bytes.headD 0) % 39

/-- Makes aliases and tells those that are named; all of them if there are no words. The name in a word is at
least one character long. -/
def makeAliases : Builtin := fun ws => do
  setCode 0
  if ws = [] then
    let rows := (← get).aliases.mergeSort fun a b => decide (aliasRow a.1 ≤ aliasRow b.1)
    say (Utility.lines (rows.map aliasLine))
  for w in ws do
    let name := w.toList.take 1 ++ (w.toList.drop 1).takeWhile (· ≠ '=')
    if name.length = w.length then
      match (← get).aliases.lookup w with
      | some text => let _ ← write 1 (aliasLine (w, text) ++ "\n")
      | none => missAlias "alias" w
    else
      let made := (String.ofList name, String.ofList (w.toList.drop (name.length + 1)))
      let aliases := (← get).aliases
      let isKnown := (aliases.lookup made.1).isSome
      modify fun st => { st with
        aliases := if isKnown then aliases.map (fun a => if a.1 = made.1 then made else a) else aliases ++ [made] }

def dropAliases : Builtin := fun ws => do
  let (os, ws) ← options "a" ws
  setCode 0
  if os ≠ [] then modify fun st => { st with aliases := [] }
  else for w in ws do
    if ((← get).aliases.lookup w).isSome then
      modify fun st => { st with aliases := st.aliases.filter (·.1 != w) }
    else missAlias "unalias" w

/-! ## All commands -/

/-- The commands by name, and which of them are special. -/
def builtins : List (String × Bool × Builtin) :=
  [(":", true, fun _ => setCode 0), ("true", false, fun _ => setCode 0), ("false", false, fun _ => setCode 1),
    ("echo", false, echo), ("printf", false, printf), ("test", false, judge), ("[", false, bracket),
    ("cd", false, cd), ("chdir", false, cd), ("pwd", false, pwd), ("read", false, read),
    ("export", true, markExported), ("readonly", true, markReadOnly), ("unset", true, unset),
    ("local", true, makeLocal), ("shift", true, shift), ("set", true, setAll), ("getopts", false, getopts),
    ("trap", true, trap), ("kill", false, kill), ("wait", false, wait), ("jobs", false, jobs),
    ("exit", true, exit), ("return", true, leaveFunction), ("break", true, leaveLoops .broke),
    ("continue", true, leaveLoops .continued), ("umask", false, umask), ("times", true, times),
    ("ulimit", false, ulimit), ("alias", false, makeAliases), ("unalias", false, dropAliases),
    ("fg", false, resume), ("bg", false, resume)]

/-- The commands that run other commands or look for them. -/
def runners : List (String × Bool) :=
  [(".", true), ("eval", true), ("exec", true), ("command", false), ("type", false), ("hash", false)]

/-- Whether a name is that of a command of the shell, and if so, whether that is special. -/
def isBuiltin? (name : String) : Option Bool :=
  match builtins.lookup name with
  | some b => some b.1
  | none => runners.lookup name

end Builtin

end TrafficShaping.Program
