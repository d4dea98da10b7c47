import TrafficShaping.Files.Calls
import TrafficShaping.Program.ByteText
import TrafficShaping.Program.Installation

/-!
# A machine with programs

A machine on which the utilities and a shell are installed, all in one directory. Its disk is a tree of
files with their contents. Work goes on in a directory some way down, so a name of a file that is not a path
from the root leads nowhere unless the file has been made.

This is one machine among those that a command can be run on. What is said of shaping holds on any of them, and
nothing outside of these modules depends on what is installed here or how it behaves.
-/

namespace TrafficShaping.Program

namespace Machine

/-- The names of the shell. -/
def shells : List String := ["sh", "dash"]

/-- The programs that are installed. -/
def programs : List String :=
  shells ++ [
    "[ arch base64 basename cat chmod cksum cmp cp cut dd dirname echo env expr false fold grep head id kill ln",
    "logname ls md5sum mkdir mv nice nl nohup od paste printenv printf pwd rev rm rmdir sed seq setsid sha1sum",
    "sha224sum sha256sum sha384sum sha512sum sleep sort sum tac tail tee test timeout touch tr true tty uname",
    "uniq wc which whoami xargs yes"].flatMap (·.splitOn " ")

def location (s : String) : Location := (Path.components (Path.ofText s)).reverse

/-- Where the programs are. -/
def programDirectory : Location := location "usr/bin"

/-- Where programs are looked for. -/
def searchPath : String := "/usr/local/sbin:/usr/local/bin:/usr/sbin:/usr/bin:/sbin:/bin"

/-- Where work goes on. -/
def workDirectory : Location := location "srv/work"

def tree : Tree where
  entries :=
    Installation.directories.map (fun s => (location s, .directory 0o755)) ++
      Installation.links.map (fun s => (location s.1, .link (Path.ofText s.2))) ++
      (Installation.files ++ programs.map ("usr/bin/" ++ ·)).map fun s => (location s, .file)

def contents : List (Location × String) := Installation.contents.map fun c => (location c.1, c.2)

/-- The name of the program at a location. -/
def programAt? : Location → Option String
  | [] => none
  | n :: dir =>
    let name := ByteText.ofBytes n
    if dir = programDirectory ∧ name ∈ programs then some name else none

end Machine

/-- Files, what is in them and who may do what with them; a file that nothing is said about holds nothing, and
only what is installed can be run. -/
structure Disk where
  tree : Tree := Machine.tree
  contents : List (Location × String) := Machine.contents
  modes : List (Location × Nat) := []

/-- What is started when a file is run: a program that is installed, what it is called, and the words that it is
given before all others. -/
structure Executable where
  name : String
  calledAs : Option String := none
  words : List String := []

/-- The interpreter that the first line of a script names, and the word after it. -/
def interpreterOf? (text : String) : Option (String × List String) :=
  match text.toList with
  | '#' :: '!' :: cs =>
    let isBlank (c : Char) : Bool := c = ' ' || c = '\t'
    let line := Text.dropEnd isBlank ((cs.takeWhile (· ≠ '\n')).dropWhile isBlank)
    let path := line.takeWhile (!isBlank ·)
    let word := (line.drop path.length).dropWhile isBlank
    if path = [] then none else some (String.ofList path, if word = [] then [] else [String.ofList word])
  | _ => none

namespace Disk

/-- The path of a location. -/
def pathOf (l : Location) : String :=
  if l = [] then "/" else String.join (l.reverse.map fun n => "/" ++ ByteText.ofBytes n)

/-- The location that a path leads to from a directory. -/
def find (d : Disk) (directory : Location) (path : String) : Except Errno Location :=
  let p := ByteText.toBytes path
  if p = [] then .error .notFound
  else if Tree.pathLimit ≤ p.length then .error .nameTooLong
  else d.tree.walk Tree.linkLimit (if Path.isAbsolute p then [] else directory) (Path.steps p)

/-- The permissions of what is at a location. -/
def modeOf (d : Disk) (l : Location) : Nat :=
  match d.modes.lookup l, d.tree.get? l with
  | some mode, _ => mode
  | none, some (.directory mode) => mode
  | none, _ => if (Machine.programAt? l).isSome then 0o755 else 0o644

/-- Whether a file can be run. -/
def isRunnable (d : Disk) (l : Location) : Bool := !d.tree.isDirectory l && d.modeOf l &&& 0o111 ≠ 0

/-- How many scripts can be run by one another. -/
def scriptLimit : Nat := 5

/-- What is started when the file that a path leads to is run. A script that names no interpreter is run by a
shell. -/
def executable (d : Disk) (directory : Location) : Nat → String → Except Errno Executable
  | 0, _ => .error .tooManyLinks
  | n + 1, path => do
    let l ← d.find directory path
    if !d.isRunnable l then throw .accessDenied
    match Machine.programAt? l, interpreterOf? ((d.contents.lookup l).getD "") with
    | some name, _ => return { name }
    | none, none => return { name := "sh", calledAs := some "/bin/sh", words := [path] }
    | none, some (interpreter, words) =>
      let e ← d.executable directory n interpreter
      return { e with calledAs := some (e.calledAs.getD interpreter), words := e.words ++ words ++ [path] }

/-- What is started when a program is run by a path. Where the path has no slash it is a name in the directory
of programs. -/
def program (d : Disk) (directory : Location) (path : String) : Except Errno Executable := do
  let p := ByteText.toBytes path
  if Path.slash ∈ p then d.executable directory scriptLimit path
  else if Tree.nameLimit < p.length then throw .nameTooLong
  else if p = Path.dot ∨ p = Path.dotDot then throw .accessDenied
  else if path ∈ Machine.programs then return { name := path }
  else throw .notFound

/-- The location of what the last name in a path names, which need not be there. Of a link it is that of the
link itself. -/
def entry (d : Disk) (directory : Location) (path : String) : Except Errno Location :=
  let p := ByteText.toBytes path
  match (Path.components p).reverse with
  | [] => d.find directory path
  | last :: _ => do
    let cut := p.take (p.length - last.length)
    if last ∈ [Path.dot, Path.dotDot] ∨ p.getLast? = some Path.slash then d.find directory path
    else
      let dir ← if cut = [] then .ok directory else d.find directory (ByteText.ofBytes cut)
      if Tree.nameLimit < last.length then throw .nameTooLong
      else if d.tree.isDirectory dir then return last :: dir
      else throw .notDirectory

/-- The location at which a file of this path is or would be. -/
def locate (d : Disk) (directory : Location) (path : String) : Except Errno Location :=
  match d.find directory path with
  | .ok l => .ok l
  | .error e => if e = .notFound then d.entry directory path else .error e

/-- Whether a location is that of one of these devices. -/
def isDevice (l : Location) (names : List String) : Bool := names.any fun n => l = Machine.location ("dev/" ++ n)

/-- The names in a directory in order. -/
def names (d : Disk) (l : Location) : List String :=
  ((d.tree.below l).filterMap fun e => match e.1 with
    | [n] => some (ByteText.ofBytes n)
    | _ => none).mergeSort fun a b => decide (a ≤ b)

/-- How much is read from a device that never ends, unless a reader wants to read something else. -/
def enough : Nat := 1048576

/-- What is in a file. -/
def read (d : Disk) (l : Location) (wanted : Nat) : Except Errno String :=
  if d.tree.isDirectory l then .error .isDirectory
  else if isDevice l ["zero", "full", "random", "urandom"] then .ok ("".pushn '\x00' wanted)
  else .ok ((d.contents.lookup l).getD "")

/-- Puts a text into a file, which comes into being if it is not there. -/
def write (d : Disk) (l : Location) (s : String) : Except Errno Disk :=
  if d.tree.isDirectory l then .error .isDirectory
  else if isDevice l ["full"] then .error .noSpace
  else if isDevice l ["null", "zero"] then .ok d
  else .ok { d with
    tree := if (d.tree.get? l).isSome then d.tree else d.tree.insert l .file
    contents := (l, s) :: d.contents.filter (·.1 != l) }

/-- Takes an entry out. -/
def remove (d : Disk) (l : Location) : Disk :=
  ⟨d.tree.erase l, d.contents.filter (·.1 != l), d.modes.filter (·.1 != l)⟩

end Disk

end TrafficShaping.Program
