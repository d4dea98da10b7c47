import TrafficShaping.Program.Utility.Basic

/-!
# Names

Programs that take names of files apart, and programs that answer with names: of the user, of the system, of
the directory, of what programs are told.
-/

namespace TrafficShaping.Program

namespace Utility

/-! ## Names of files -/

/-- The last name in a path. -/
def lastName (s : String) : String :=
  let trimmed := Text.trimEndOf '/' s
  if s = "" then "" else if trimmed = "" then "/" else (Text.splitAt '/' trimmed).getLast?.getD ""

def basename : Utility := withOptions "basename" 1
  { letters := "as:z", names := [("multiple", 'a'), ("suffix", 's'), ("zero", 'z')], areInFront := true } fun _ g =>
  let cut (ending s : String) : String :=
    let name := lastName s
    match Text.stripEnd? ending name with
    | some "" | none => name
    | some kept => kept
  let put (names : List String) : Result :=
    writing (String.join (names.map (· ++ (if g.has 'z' then "\x00" else "\n"))))
  if g.operands = [] then misused "basename" 1 "missing operand"
  else if g.has 'a' || g.has 's' then put (g.operands.map (cut ((g.value? 's').getD "")))
  else match g.operands with
    | [] | [_] => put (g.operands.map lastName)
    | [s, ending] => put [cut ending s]
    | _ :: _ :: w :: _ => misused "basename" 1 ("extra operand " ++ quoted w)

/-- The directory that a path is in. -/
def directoryName (s : String) : String :=
  let trimmed := Text.trimEndOf '/' s
  if trimmed = "" then (if s = "" then "." else "/")
  else
    let before := (Text.splitAt '/' trimmed).dropLast
    if before = [] then "."
    else
      let dir := Text.trimEndOf '/' (Text.joinWith "/" before)
      if dir = "" then "/" else dir

def dirname : Utility := withOptions "dirname" 1 { letters := "z", names := [("zero", 'z')] } fun _ g =>
  if g.operands = [] then misused "dirname" 1 "missing operand"
  else writing (String.join (g.operands.map fun s => directoryName s ++ (if g.has 'z' then "\x00" else "\n")))

def pwd : Utility := withOptions "pwd" 1
  { letters := "LP", names := [("logical", 'L'), ("physical", 'P')] } fun c g =>
  { out := Disk.pathOf c.directory ++ "\n"
    err := if g.operands = [] then "" else "pwd: ignoring non-option arguments\n" }

/-- Says which paths names of programs lead to. -/
def which : Utility := fun c =>
  let o : Options := { letters := "as", areInFront := true }
  match o.read c.arguments with
  | .error (.unknown l) =>
    failing 2 ("Illegal option -" ++ l.toString ++ "\nUsage: /usr/bin/which [-as] args")
  | .error _ => failing 2 "Illegal option --\nUsage: /usr/bin/which [-as] args"
  | .ok g =>
    let directories := Text.splitAt ':' ((c.environment.lookup "PATH").getD "")
    let isThere (path : String) : Bool := (c.disk.program c.directory path).toOption.isSome
    let paths (name : String) : List String :=
      let found := if name.contains '/' then [name].filter isThere
        else (directories.map (· ++ "/" ++ name)).filter isThere
      if g.has 'a' then found else found.take 1
    { code := if g.operands ≠ [] && g.operands.all fun n => paths n ≠ [] then 0 else 1
      out := if g.has 's' then "" else lines (g.operands.flatMap paths) }

/-! ## Names of parameters, users and systems -/

def printenv : Utility := withOptions "printenv" 2
  { letters := "0", names := [("null", '0')], areInFront := true } fun c g =>
  let put (ss : List String) : String := String.join (ss.map (· ++ (if g.has '0' then "\x00" else "\n")))
  match g.operands with
  | [] => writing (put (c.environment.map fun e => e.1 ++ "=" ++ e.2))
  | names =>
    let found := names.filterMap fun n => c.environment.lookup n
    { code := if found.length = names.length then 0 else 1, out := put found }

def id : Utility := withOptions "id" 1
  { letters := "agGnruzZ", names := [("user", 'u'), ("group", 'g'), ("groups", 'G'), ("name", 'n')] } fun _ g =>
  let choices := ['u', 'g', 'G'].filter g.has
  if 1 < choices.length then failing 1 "id: cannot print \"only\" of more than one choice"
  else if choices = [] && (g.has 'n' || g.has 'r') then
    failing 1 "id: cannot print only names or real IDs in default format"
  else match g.operands.find? fun u => u ≠ "root" && u ≠ "0" with
    | some user => failing 1 ("id: " ++ quoted user ++ ": no such user")
    | none =>
      writing (if choices = [] then "uid=0(root) gid=0(root) groups=0(root)\n"
        else if g.has 'n' then "root\n" else "0\n")

/-- A program that takes no operands and answers with a line. -/
def answering (name line : String) : Utility := withOptions name 1 { letters := "" } fun _ g =>
  match g.operands with
  | [] => writing (line ++ "\n")
  | w :: _ => misused name 1 ("extra operand " ++ quoted w)

def whoami : Utility := answering "whoami" "root"

def arch : Utility := answering "arch" "x86_64"

def logname : Utility := withOptions "logname" 1 { letters := "" } fun _ g =>
  match g.operands with
  | [] => failing 1 "logname: no login name"
  | w :: _ => misused "logname" 1 ("extra operand " ++ quoted w)

def uname : Utility := withOptions "uname" 1 { letters := "asnrvmpio" } fun _ g =>
  match g.operands with
  | [] =>
    let parts := [('s', "Linux"), ('m', "x86_64"), ('o', "GNU/Linux")].filter fun p =>
      g.has p.1 || (g.options = [] && p.1 = 's')
    writing (Text.joinWith " " (parts.map (·.2)) ++ "\n")
  | w :: _ => misused "uname" 1 ("extra operand " ++ quoted w)

/-- No stream is a terminal. -/
def tty : Utility := withOptions "tty" 2
  { letters := "s", names := [("silent", 's'), ("quiet", 's')] } fun _ g =>
  match g.operands with
  | [] => { code := 1, out := if g.has 's' then "" else "not a tty\n" }
  | w :: _ => misused "tty" 2 ("extra operand " ++ quoted w)

end Utility

end TrafficShaping.Program
