import TrafficShaping.Program.Shell.Expansion

/-!
# Redirections

A redirection connects a stream to something else while a command runs. The words of all redirections of a
command are expanded first; only then the streams are connected, which can fail in ways of its own.
-/

namespace TrafficShaping.Program

/-- What a stream is to be connected to; none closes it. -/
inductive Connection where
  | stream (number : Nat) (other : Option Nat)
  | file (number : Nat) (access : Access) (path : String)
  | text (number : Nat) (document : Word)

namespace Connection

/-- The stream that is connected. -/
def number : Connection → Nat
  | .stream n _ | .file n _ _ | .text n _ => n

/-- Expands the word of a redirection. -/
def ofRedirect (capture : Shell.Capture) : Redirect → Run Connection
  | .stream n w => do
    let word ← Shell.textOf capture w
    if word = "-" then return .stream n none
    match (if word.length = 1 then Number.natural? word.toList else none) with
    | some m => return .stream n (some m)
    | none => do
      modify fun st => { st with line := st.lineRead }
      Shell.fail "Syntax error: Bad fd number"
  | .file n access w => return .file n access (← Shell.textOf capture w)
  | .text n document => return .text n (((← get).documents.lookup document).getD [])

/-- The stream that a path is another name for. -/
def streamOf? (path : String) : Option Nat :=
  match path with
  | "/dev/stdin" => some 0
  | "/dev/stdout" => some 1
  | "/dev/stderr" => some 2
  | path => (Text.stripStart? "/dev/fd/" path).bind fun s => Number.natural? s.toList

/-- Why a file was not opened or made, in the words of a shell. -/
def reason (ofNothing : String) (e : Errno) : String :=
  if e = .notFound ∨ e = .notDirectory then ofNothing else e.description

def openForReading (path : String) : Run Channel := do
  let st ← get
  let opened : Except Errno (Except Channel String) := do
    let l ← st.world.disk.find st.directory path
    if Disk.isDevice l ["null"] then return .error .null
    else if Disk.isDevice l ["zero", "full", "random", "urandom"] then return .error .endless
    else if st.world.disk.tree.isDirectory l then return .error (.file l)
    else return .ok (← st.world.disk.read l Disk.enough)
  match opened with
  | .ok (.ok s) => Shell.newInput s
  | .ok (.error c) => return c
  | .error e => Shell.fail ("cannot open " ++ path ++ ": " ++ reason "No such file" e)

/-- Opens a file for writing, which is made if it is not there and emptied unless it is to grow. -/
def openForWriting (path : String) (access : Access) : Run Channel := do
  let st ← get
  let grows := access = .append || access = .both
  let isKept := access = .write && Shell.hasOption st 'C'
  let opened : Except Errno (Disk × Channel) := do
    let l ← st.world.disk.locate st.directory path
    if Disk.isDevice l ["null"] then return (st.world.disk, .null)
    else if Disk.isDevice l ["zero", "random", "urandom"] then return (st.world.disk, .endless)
    else if Disk.isDevice l ["full"] then return (st.world.disk, .full)
    else
      let isThere := (st.world.disk.tree.get? l).isSome
      if isThere && isKept then throw .alreadyExists
      let disk ← if isThere && grows && !st.world.disk.tree.isDirectory l then pure st.world.disk
        else st.world.disk.write l ""
      return (disk, .file l)
  match opened with
  | .ok (disk, c) => do
    set { st with world.disk := disk }
    return c
  | .error e => Shell.fail ("cannot create " ++ path ++ ": " ++ reason "Directory nonexistent" e)

/-- Opens a file for both reading and writing. It can only be read if the stream is usually read, or if there is
something in it and the stream is none of those that are usually written. -/
def openForBoth (n : Nat) (path : String) : Run Channel := do
  let written ← openForWriting path .both
  let disk := (← get).world.disk
  let isEmpty := match written with
    | .file l => (disk.read l 1).toOption.getD "" = ""
    | _ => true
  if n = 0 || 2 < n && !isEmpty then openForReading path else return written

/-- Connects a stream to what another one is connected to. If it is to get back later what it was connected
to, it is closed before that is looked at, so that a complaint may have nowhere to go. -/
def joinStreams (isKept : Bool) (n m : Nat) : Run Unit := do
  if n = m then return
  match (← get).streams.lookup m with
  | some c => Shell.setStream n (some c)
  | none => do
    if isKept then Shell.setStream n none
    Shell.fail (Number.naturalText m ++ ": Bad file descriptor")

/-- Connects a stream. A here document is expanded when its turn comes. -/
def connect (capture : Shell.Capture) (isKept : Bool) : Connection → Run Unit
  | .stream n none => Shell.setStream n none
  | .stream n (some m) => joinStreams isKept n m
  | .file n access path =>
    match streamOf? path with
    | some m => joinStreams isKept n m
    | none => do
      let c ← match access with
        | .read => openForReading path
        | .write | .overwrite | .append => openForWriting path access
        | .both => openForBoth n path
      Shell.setStream n (some c)
  | .text n w => do Shell.setStream n (some (← Shell.newInput (← Shell.documentOf capture w)))

end Connection

end TrafficShaping.Program
