import TrafficShaping.Errno
import TrafficShaping.Files.Tree

/-!
# Finding files

A path is walked component by component, and every component has to be looked up in a directory. A link on
the way is replaced by the components of its target, which start over at the root if the target is
absolute. Walking goes on through a limited number of links, so it ends also where links lead in circles.

Some operations act on an entry of a directory and not on what the entry leads to. For these a path is
walked up to its last component.
-/

namespace TrafficShaping

namespace Tree

/-- The longest name that a directory can hold. -/
def nameLimit : Nat := 255

/-- The most links on the way to a file. -/
def linkLimit : Nat := 40

/-- How far a walk came: to a location, or to a link with components left, or to a failure. -/
inductive Stop where
  | here (l : Location)
  | link (directory : Location) (target : Path) (rest : List Name)
  | failed (e : Errno)

/-- Walks up to the first link. -/
def advance (t : Tree) : Location → List Name → Stop
  | l, [] => .here l
  | l, n :: ns =>
    if !t.isDirectory l then .failed .notDirectory
    else if n = Path.dot then t.advance l ns
    else if n = Path.dotDot then t.advance l.tail ns
    else if nameLimit < n.length then .failed .nameTooLong
    else match t.get? (n :: l) with
      | none => .failed .notFound
      | some (.link target) => .link l target ns
      | some _ => t.advance (n :: l) ns

/-- Walks through at most so many links. -/
def walk (t : Tree) : Nat → Location → List Name → Except Errno Location
  | links, l, ns =>
    match t.advance l ns with
    | .here l => .ok l
    | .failed e => .error e
    | .link l target rest =>
      match links with
      | 0 => .error .tooManyLinks
      | links + 1 =>
        t.walk links (if Path.isAbsolute target then [] else l) (Path.steps target ++ rest)

/-- The location that a path leads to. -/
def find (t : Tree) (p : Path) : Except Errno Location :=
  if p = [] then .error .notFound else t.walk linkLimit [] (Path.steps p)

/-- What the last component of a path names: an entry of a directory, or a directory itself. -/
inductive Last where
  | name (n : Name)
  | dot
  | dotDot
  | root

def Last.ofName (n : Name) : Last :=
  if n = Path.dot then .dot else if n = Path.dotDot then .dotDot else .name n

/-- Walks up to the last component. -/
def place (t : Tree) (p : Path) : Except Errno (Location × Last) :=
  match (Path.components p).reverse with
  | [] => if p = [] then .error .notFound else .ok ([], .root)
  | last :: before => do
    let l ← t.walk linkLimit [] before.reverse
    if t.isDirectory l then return (l, .ofName last) else throw .notDirectory

/-- The location of the entry that the last component of a path names, if it names an entry. A directory
that is not looked up by a name is an error of the caller's choice. -/
def placeEntry (t : Tree) (p : Path) (otherwise : Last → Errno) : Except Errno Location := do
  match ← t.place p with
  | (l, .name n) => if nameLimit < n.length then throw .nameTooLong else return n :: l
  | (_, last) => throw (otherwise last)

end Tree

end TrafficShaping
