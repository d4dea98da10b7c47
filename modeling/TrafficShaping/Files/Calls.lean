import TrafficShaping.Files.Walk

/-!
# Operations on files

What the system does to a tree when it is asked to make, look at or remove a file. An operation that fails
leaves the tree as it was. Those that change the tree change one entry of one directory: making needs the
entry to be missing, whatever it may be, and removing looks at the entry itself and not at what a link
leads to.
-/

namespace TrafficShaping

/-- Why an operation on a path failed: the system refused it, or the path could not be handed to the
system. -/
inductive FileError where
  | system (e : Errno)
  | nulInName
  | nulInAddress
  | addressTooLong
  | notSocket (p : Path)
deriving DecidableEq

def FileError.message : FileError → String
  | .system e => e.message
  | .nulInName => "file name contained an unexpected NUL byte"
  | .nulInAddress => "paths must not contain interior null bytes"
  | .addressTooLong => "path must be shorter than SUN_LEN"
  | .notSocket p => p.text ++ " exists and is not a socket"

namespace Tree

/-- From this length on, a path is refused. -/
def pathLimit : Nat := 4096

/-- From this length on, a path cannot be the address of a socket. -/
def addressLimit : Nat := 108

/-- Hands a path to the system. -/
def call {α : Type} (p : Path) (answer : Except Errno α) : Except FileError α :=
  if 0 ∈ p then .error .nulInName
  else if pathLimit ≤ p.length then .error (.system .nameTooLong)
  else answer.mapError .system

/-- Whether a path ends in a slash. -/
def asksForDirectory (p : Path) : Bool := p.getLast? == some Path.slash

/-- What a path leads to. -/
def stat (t : Tree) (p : Path) : Except FileError Entry :=
  call p do
    let l ← t.find p
    (t.get? l).elim (throw .notFound) pure

/-- Whether a path leads to a directory. -/
def leadsToDirectory (t : Tree) (p : Path) : Bool :=
  match t.stat p with
  | .ok e => e.isDirectory
  | .error _ => false

/-- What is at a path: of a link, the link itself. -/
def lstat (t : Tree) (p : Path) : Except FileError Entry :=
  if asksForDirectory p then t.stat p
  else call p do
    match ← t.place p with
    | (l, .name n) =>
      if nameLimit < n.length then throw .nameTooLong
      else (t.get? (n :: l)).elim (throw .notFound) pure
    | _ => (t.get? (← t.find p)).elim (throw .notFound) pure

/-- The target of the link at a path. -/
def readLink (t : Tree) (p : Path) : Except FileError Path := do
  match ← t.lstat p with
  | .link target => return target
  | _ => throw (.system .invalid)

/-- The location for a new entry, which must not exist. -/
def vacancy (t : Tree) (p : Path) : Except Errno Location := do
  let l ← t.placeEntry p fun _ => .alreadyExists
  match t.get? l with
  | some _ => throw .alreadyExists
  | none => return l

/-- Makes a directory. The mode is the one that is asked for: a mask of the process that would take bits out of
it, and a group that would be passed on by the directory around, are left out. -/
def makeDirectory (t : Tree) (mode : Nat) (p : Path) : Except FileError Tree :=
  call p do return t.insert (← t.vacancy p) (.directory mode)

/-- Makes an entry that is no directory. -/
def makeEntry (t : Tree) (e : Entry) (p : Path) : Except Errno Tree := do
  let l ← t.vacancy p
  if asksForDirectory p then throw .notFound else return t.insert l e

def makeLink (t : Tree) (target p : Path) : Except FileError Tree := call p (t.makeEntry (.link target) p)

/-- Makes a file, or leaves it at the one that the path leads to. -/
def makeFile (t : Tree) (p : Path) : Except FileError Tree :=
  match t.stat p with
  | .ok e => if e.isDirectory then .error (.system .isDirectory) else .ok t
  | .error _ => call p (t.makeEntry .file p)

/-- Puts a socket at an address. -/
def makeSocket (t : Tree) (number : Nat) (p : Path) : Except FileError Tree :=
  if 0 ∈ p then .error .nulInAddress
  else if addressLimit ≤ p.length then .error .addressTooLong
  else ((t.makeEntry (.socket number) p).mapError fun e =>
    if e = .alreadyExists then .addressInUse else e).mapError .system

/-- The socket at an address. -/
def reachSocket (t : Tree) (p : Path) : Except FileError Nat :=
  if 0 ∈ p then .error .nulInAddress
  else if addressLimit ≤ p.length then .error .addressTooLong
  else match t.stat p with
    | .ok (.socket number) => .ok number
    | .ok _ => .error (.system .connectionRefused)
    | .error e => .error e

/-- Removes an entry that is no directory. -/
def removeFile (t : Tree) (p : Path) : Except FileError Tree :=
  call p do
    let l ← t.placeEntry p fun _ => .isDirectory
    match t.get? l with
    | none => throw .notFound
    | some (.directory _) => throw .isDirectory
    | some _ => if asksForDirectory p then throw .notDirectory else return t.erase l

/-- Removes a directory that holds nothing. -/
def removeDirectory (t : Tree) (p : Path) : Except FileError Tree :=
  call p do
    let l ← t.placeEntry p fun
      | .dotDot => .notEmpty
      | .dot => .invalid
      | _ => .busy
    match t.get? l with
    | none => throw .notFound
    | some (.directory _) => if t.isOccupied l then throw .notEmpty else return t.erase l
    | some _ => throw .notDirectory

/-- Makes a directory and the missing ones around it. `paths` are the directory's path and those of the
directories around it, from the inside out. -/
def makeDirectories (mode : Nat) : List Path → Tree → Except FileError Unit × Tree
  | [], t => (.ok (), t)
  | p :: around, t =>
    if p = [] then (.ok (), t)
    else
      let make (t : Tree) : Except FileError Unit × Tree :=
        match t.makeDirectory mode p with
        | .ok t => (.ok (), t)
        | .error e => (if t.leadsToDirectory p then .ok () else .error e, t)
      match t.makeDirectory mode p with
      | .error (.system .notFound) =>
        match makeDirectories mode around t with
        | (.ok (), t) => make t
        | (.error e, t) => (.error e, t)
      | _ => make t

end Tree

end TrafficShaping
