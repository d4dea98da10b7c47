import TrafficShaping.Files.Path

/-!
# File trees

A tree says for every location what is there. A location is the list of names that lead to it, from the
inside out, so the location of the root is empty and a location's tail is where its directory is. The root
is always a directory.
-/

namespace TrafficShaping

abbrev Location := List Name

/-- What is at a location. The mode of a directory is the permissions that it was made with; nothing is said of
owners and groups. A socket is told from others by its number. -/
inductive Entry where
  | directory (mode : Nat)
  | file
  | link (target : Path)
  | socket (number : Nat)
deriving DecidableEq

def Entry.isDirectory : Entry → Bool
  | .directory _ => true
  | _ => false

structure Tree where
  entries : List (Location × Entry) := []

namespace Tree

instance : Inhabited Tree := ⟨{}⟩

/-- The permissions of the root. -/
def rootMode : Nat := 0o755

def get? (t : Tree) : Location → Option Entry
  | [] => some (.directory rootMode)
  | l => t.entries.lookup l

def insert (t : Tree) (l : Location) (e : Entry) : Tree := ⟨(l, e) :: t.entries.filter (·.1 != l)⟩

def erase (t : Tree) (l : Location) : Tree := ⟨t.entries.filter (·.1 != l)⟩

def isDirectory (t : Tree) (l : Location) : Bool := (t.get? l).any Entry.isDirectory

/-- Whether a directory holds anything. -/
def isOccupied (t : Tree) (l : Location) : Bool :=
  t.entries.any fun e => match e.1 with
    | [] => false
    | _ :: dir => dir == l

/-- Everything below a location, each with the names that lead there from it. -/
def below (t : Tree) (l : Location) : List (List Name × Entry) :=
  t.entries.filterMap fun e =>
    if e.1.length ≤ l.length then none
    else if e.1.drop (e.1.length - l.length) = l then
      some ((e.1.take (e.1.length - l.length)).reverse, e.2)
    else none

end Tree

end TrafficShaping
