import TrafficShaping.Text.Blank
import TrafficShaping.Text.Utf8

/-!
# Paths

A path is a text of bytes cut by slashes. Two ways of taking it apart matter here. To find a file, the
system walks the components one by one, and a slash at the end asks for a directory like a last component
`.` would. To name the directory that a file is in, the last component is cut off, and with it everything
that says nothing: doubled slashes and components `.`, except for one that a path starts with.
-/

namespace TrafficShaping

/-- The name of a file in its directory. -/
abbrev Name := List UInt8

abbrev Path := List UInt8

namespace Path

def slash : UInt8 := 0x2f

/-- The name of a directory in itself. -/
def dot : Name := [0x2e]

/-- The name of a directory's parent in it. -/
def dotDot : Name := [0x2e, 0x2e]

def ofText (s : String) : Path := Text.Utf8.encode s

/-- How a path is shown. -/
def text (p : Path) : String := Text.Utf8.decodeLossy p

/-- What stands between the slashes of a path. -/
def segments (p : Path) : List Name := Text.pieces (· == slash) p

def isAbsolute (p : Path) : Bool := p.head? == some slash

/-- The components of a path. -/
def components (p : Path) : List Name := (segments p).filter (!·.isEmpty)

/-- The components that are walked: a slash after the last one asks for a directory. -/
def steps (p : Path) : List Name :=
  components p ++ (if p.getLast? = some slash then [dot] else [])

/-- A path with a component more. -/
def child (p : Path) (n : Name) : Path := p ++ slash :: n

/-- A path from segments. -/
def ofSegments (segments : List Name) : Path := [slash].intercalate segments

/-- Whether a segment says nothing. -/
def isIdle (segment : Name) : Bool := segment.isEmpty || segment == dot

/-- The segments without the last one that says something; none if there is no such segment. -/
def cutLast? (segments : List Name) : Option (List Name) :=
  match Text.dropEnd isIdle segments with
  | [] => none
  | kept => some (Text.dropEnd isIdle kept.dropLast)

/-- The path of the directory that a path is in; none for the root and for the empty path. -/
def parent? (p : Path) : Option Path :=
  match segments p with
  | [] => none
  | first :: rest =>
    if isAbsolute p then (cutLast? rest).map fun kept => slash :: ofSegments kept
    else match cutLast? rest with
      | some kept => some (ofSegments (first :: kept))
      | none => if first = [] then none else some []

/-- A path and the paths of the directories around it, from the inside out. -/
def ancestors (p : Path) : List Path := go p.length p
where
  go : Nat → Path → List Path
    | 0, p => [p]
    | n + 1, p =>
      match parent? p with
      | none => [p]
      | some q => p :: go n q

end Path

end TrafficShaping
