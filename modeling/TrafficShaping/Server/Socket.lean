import TrafficShaping.Files.Calls

/-!
# The server's socket

A server listens at a socket in the file system. Before it does, the directories around the socket are made,
and a socket that is there already is taken for one that a server left behind and removed; anything else
that is there stays, and the server does not start.

As long as the server runs, somebody holds its listener and its guard. Without the listener nobody is reached
through the socket any more. The guard, when it is let go, removes whatever is at the socket's path, and then
the directory around it if nothing else is in there.
-/

namespace TrafficShaping

/-- A file tree with the sockets in it: how many have been made so far, and which of them somebody listens
at. -/
structure FileSystem where
  tree : Tree := {}
  sockets : Nat := 0
  listening : List Nat := []

/-- Somebody who listens at a socket. -/
structure Listener where
  socket : Nat
deriving DecidableEq

/-- Removes a socket once its server is done. -/
structure SocketGuard where
  path : Path
deriving DecidableEq

namespace FileSystem

instance : Inhabited FileSystem := ⟨{}⟩

/-- The permissions of a directory made for a socket. -/
def socketDirectoryMode : Nat := 0o700

/-- Makes room for a socket: its directory, and in there an unused name. -/
def makeRoom (t : Tree) (p : Path) : Except FileError Unit × Tree :=
  let around := p.ancestors.tail
  match Tree.makeDirectories socketDirectoryMode around t with
  | (.error e, t) => (.error e, t)
  | (.ok (), t) =>
    match t.lstat p with
    | .ok (.socket _) =>
      match t.removeFile p with
      | .ok t => (.ok (), t)
      | .error e => (.error e, t)
    | .ok _ => (.error (.notSocket p), t)
    | .error (.system .notFound) => (.ok (), t)
    | .error e => (.error e, t)

/-- Listens at a new socket. To bind it and to listen at it is one step here, so it cannot fail in between and
leave a socket that nobody listens at. -/
def listen (fs : FileSystem) (p : Path) : Except FileError Listener × FileSystem :=
  match fs.tree.makeSocket fs.sockets p with
  | .error e => (.error e, fs)
  | .ok tree => (.ok ⟨fs.sockets⟩, ⟨tree, fs.sockets + 1, fs.sockets :: fs.listening⟩)

/-- Starts listening for a server. -/
def bind (fs : FileSystem) (p : Path) : Except FileError (Listener × SocketGuard) × FileSystem :=
  match makeRoom fs.tree p with
  | (.error e, tree) => (.error e, { fs with tree })
  | (.ok (), tree) =>
    match listen { fs with tree } p with
    | (.error e, fs) => (.error e, fs)
    | (.ok listener, fs) => (.ok (listener, ⟨p⟩), fs)

/-- Stops listening. -/
def unlisten (fs : FileSystem) (l : Listener) : FileSystem :=
  { fs with listening := fs.listening.erase l.socket }

/-- What becomes of a tree when a guard is let go. -/
def cleanUp (t : Tree) (g : SocketGuard) : Tree :=
  let t := (t.removeFile g.path).toOption.getD t
  match g.path.parent? with
  | none => t
  | some directory => (t.removeDirectory directory).toOption.getD t

/-- Lets a guard go. -/
def release (fs : FileSystem) (g : SocketGuard) : FileSystem := { fs with tree := cleanUp fs.tree g }

/-- Connects to whoever listens at a path. -/
def connect (fs : FileSystem) (p : Path) : Except FileError Listener :=
  match fs.tree.reachSocket p with
  | .error e => .error e
  | .ok socket =>
    if socket ∈ fs.listening then .ok ⟨socket⟩ else .error (.system .connectionRefused)

end FileSystem

end TrafficShaping
