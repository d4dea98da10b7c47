import TrafficShaping.Program.Regex
import TrafficShaping.Program.Utility.Basic

/-!
# Searching

`grep` writes the lines of files that match one of some expressions.
-/

namespace TrafficShaping.Program

namespace Utility

def grepUsage : String := "Usage: grep [OPTION]... PATTERNS [FILE]...\n"

/-- The options of `grep`, which also has old ones that are numbers. -/
def grepOptions : Options where
  letters := "cEFGhHiyLlnoqrRsvwxzUaIe:f:m:A:B:C:"
  names := [("count", 'c'), ("extended-regexp", 'E'), ("fixed-strings", 'F'), ("ignore-case", 'i'),
    ("quiet", 'q'), ("silent", 'q'), ("invert-match", 'v'), ("line-number", 'n'), ("only-matching", 'o'),
    ("word-regexp", 'w'), ("line-regexp", 'x'), ("regexp", 'e'), ("max-count", 'm')]

/-- What `grep` looks for, and in which way. -/
structure Search where
  given : Given
  expressions : List Regex

namespace Search

/-- The first match in a line. A match may have to stand alone, or to be the whole line. -/
def match? (s : Search) (line : String) (start : Regex.Place) : Option (Regex.Place × Regex.Place) :=
  let isWhole (m : Regex.Place × Regex.Place) : Bool :=
    !s.given.has 'x' || (m.1.left.length = line.length && m.2.left.isEmpty)
  let standsAlone (m : Regex.Place × Regex.Place) : Bool :=
    !s.given.has 'w' || (!m.1.before.any Regex.isWordChar && !m.2.left.head?.any Regex.isWordChar)
  let fits (m : Regex.Place × Regex.Place) : Bool := isWhole m && standsAlone m
  let found := s.expressions.filterMap fun r =>
    (Regex.placesFrom start.left.length start).findSome? fun p =>
      (((r.after p).map fun e => (p, e)).filter fits).foldl (fun best m => match best with
        | some b => if m.2.left.length < b.2.left.length then some m else best
        | none => some m) none
  found.foldl (fun best m => match best with
    | some b =>
      if b.1.left.length < m.1.left.length ∨
          (b.1.left.length = m.1.left.length ∧ m.2.left.length < b.2.left.length) then some m
      else best
    | none => some m) none

/-- The parts of a line that match, at most so many. -/
def parts (s : Search) (line : String) : Nat → Regex.Place → List String
  | 0, _ => []
  | n + 1, p =>
    match s.match? line p with
    | none => []
    | some (start, stop) =>
      let text := start.left.take (start.left.length - stop.left.length)
      let next := if text = [] then stop.advance 1 else stop
      let rest := if stop.left = [] then [] else parts s line n next
      if text = [] then rest else String.ofList text :: rest

/-- The lines of a text that are wanted, with their numbers. -/
def hits (s : Search) (text : String) : List (Nat × String) :=
  let all := ((linesOf text).mapIdx fun i l => (i + 1, l)).filter fun l =>
    (s.match? l.2 { left := l.2.toList }).isSome != s.given.has 'v'
  match (s.given.value? 'm').bind fun m => Number.natural? m.toList with
  | some most => all.take most
  | none => all

/-- What is written of a file. -/
def rows (s : Search) (isNamed : Bool) (file : String) (hits : List (Nat × String)) : List String :=
  let name := if file = "-" then "(standard input)" else file
  let label := if isNamed then name ++ ":" else ""
  if s.given.has 'q' then []
  else if s.given.has 'c' then [label ++ Number.naturalText hits.length]
  else if s.given.has 'l' then (if hits = [] then [] else [name])
  else if s.given.has 'L' then (if hits = [] then [name] else [])
  else hits.flatMap fun l =>
    let label := label ++ (if s.given.has 'n' then Number.naturalText l.1 ++ ":" else "")
    if s.given.has 'o' then
      (if s.given.has 'v' then [] else (s.parts l.2 (l.2.length + 1) { left := l.2.toList }).map (label ++ ·))
    else [label ++ l.2]

end Search

def grep : Utility := fun c =>
  match grepOptions.read c.arguments with
  | .error e => failing 2 ("grep: " ++ optionComplaint e ++ "\n" ++ grepUsage ++ hint "grep")
  | .ok g =>
    let patterns := (g.options.filter (·.1 = 'e')).map (·.2)
    let (patterns, files) := match patterns, g.operands with
      | [], p :: files => ([p], files)
      | ps, files => (ps, files)
    if patterns = [] then failing 2 (grepUsage ++ hint "grep")
    else
      let read (p : String) : Except Regex.Fault Regex :=
        (if g.has 'F' then .ok (Regex.literal p) else Regex.read (g.has 'E') p).map fun r =>
          if g.has 'i' || g.has 'y' then r.ignoringCase else r
      match (patterns.flatMap (Text.splitAt '\n' ·)).mapM read with
      | .error e => failing 2 ("grep: " ++ e.message)
      | .ok expressions =>
        let s : Search := ⟨g, expressions⟩
        let hasLines := !(g.has 'q' || g.has 'l' || g.has 'L')
        let w : Wording := { Wording.plain with
          own? := fun _ => if hasLines then some "input file is also the output" else none }
        let read := sources "grep" w Disk.enough c (filesOf files)
        let isNamed := g.has 'H' || (1 < read.length && !g.has 'h')
        let found := (texts read).map fun t => (t.1, s.hits t.2)
        let isFound := found.any fun f => f.2 ≠ []
        { code :=
            if isFound && (complaints read = [] || g.has 'q') then 0 else if complaints read = [] then 1 else 2
          out := lines (found.flatMap fun f => s.rows isNamed f.1 f.2)
          err := if g.has 's' then "" else lines (complaints read)
          hasRead := (filesOf files).contains "-" }

end Utility

end TrafficShaping.Program
