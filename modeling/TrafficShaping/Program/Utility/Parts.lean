import TrafficShaping.Program.Utility.Basic

/-!
# Parts of files

`head` and `tail` write so many lines or bytes of every file, counted from its start or its end. How many is
said by an option, or in an older form by a word that is a number with letters behind it.
-/

namespace TrafficShaping.Program

namespace Utility

/-- A number with letters for a multiple of it, which may stand alone. -/
def multiple? (cs : List Char) : Option Nat :=
  let ds := cs.takeWhile Char.isDigit
  let powers : List (Char × Nat) :=
    [('k', 1), ('K', 1), ('m', 2), ('M', 2), ('G', 3), ('T', 4), ('P', 5), ('E', 6), ('Z', 7), ('Y', 8), ('R', 9),
      ('Q', 10)]
  let factor? : List Char → Option Nat
    | [] => some 1
    | ['b'] => some 512
    | c :: unit => do
      let base ← match unit with
        | [] | ['i', 'B'] => some 1024
        | ['B'] | ['D'] => some 1000
        | _ => none
      return Nat.pow base (← powers.lookup c)
  if cs = [] then none
  else (factor? (cs.drop ds.length)).map fun f => f * if ds = [] then 1 else (Number.natural? ds).getD 0

/-- What is counted, and how much. -/
structure Amount where
  bytes : Bool := false
  /-- Whether the count is from the other end. -/
  fromOther : Bool := false
  count : Nat := 10

/-- An amount with a sign, which may say that it is from the other end; otherwise a complaint. -/
def amount (other : Char) (bytes : Bool) (s : String) : Except String Amount :=
  let sign := s.toList.head?
  let digits := if sign = some '+' || sign = some '-' then s.toList.drop 1 else s.toList
  let shown := if sign = some '-' then String.ofList digits else s
  let refused (more : String) : Except String Amount :=
    .error ("invalid number of " ++ (if bytes then "bytes" else "lines") ++ ": " ++ quoted shown ++ more)
  match multiple? digits with
  | none => refused ""
  | some n =>
    if n < Nat.pow 2 64 then .ok ⟨bytes, sign = some other, n⟩
    else refused (": " ++ Errno.tooLarge.description)

/-- The amount that options ask for; otherwise a complaint. -/
def amountOf (other : Char) (g : Given) : Except String Amount :=
  match (g.options.filter fun o => o.1 = 'n' || o.1 = 'c').getLast? with
  | none => .ok {}
  | some (o, value) => amount other (o = 'c') value

def startOf (a : Amount) (s : String) : String :=
  if a.bytes then
    String.ofList (s.toList.take (if a.fromOther then s.length - a.count else a.count))
  else
    let ls := wholeLines s
    String.join (ls.take (if a.fromOther then ls.length - a.count else a.count))

def endOf (a : Amount) (s : String) : String :=
  if a.bytes then String.ofList (s.toList.drop (if a.fromOther then a.count - 1 else s.length - a.count))
  else
    let ls := wholeLines s
    String.join (ls.drop (if a.fromOther then a.count - 1 else ls.length - a.count))

/-- Writes a part of every file, under its name if there are several. Of the options that are digits the first
one is told, if there is one, as a complaint says it. -/
def partsOfFiles (name : String) (other : Char) (part : Amount → String → String) (misplaced : Char → Result) :
    Utility :=
  let o : Options := {
    letters := "n:c:qvz0123456789"
    names := [("lines", 'n'), ("bytes", 'c'), ("quiet", 'q'), ("silent", 'q'), ("verbose", 'v')] }
  withOptions name 1 o fun c g =>
    match g.letters.find? Char.isDigit, amountOf other g with
    | some d, _ => misplaced d
    | none, .error e => failing 1 (name ++ ": " ++ e)
    | none, .ok a =>
      let files := filesOf g.operands
      let w : Wording := {
        closed := fun file reason => "cannot open " ++ shellQuoted file ++ " for reading: " ++ reason
        unreadable := fun file reason => "error reading " ++ shellQuoted file ++ ": " ++ reason }
      let read := sources name w (if a.bytes then a.count else Disk.enough) c files
      let titled : Bool := match (g.letters.filter fun l => l = 'q' || l = 'v').getLast? with
        | some l => l = 'v'
        | none => decide (1 < files.length)
      let one (t : String × String) : String :=
        (if titled then "==> " ++ (if t.1 = "-" then "standard input" else t.1) ++ " <==\n" else "") ++ part a t.2
      { code := if complaints read = [] then 0 else 1
        out := (if titled then "\n" else "").intercalate ((texts read).map one)
        err := lines (complaints read)
        hasRead := files.contains "-" }

/-! ## Numbers as options -/

/-- The options that the letters behind a number stand for; a letter without a meaning is the failure. -/
def numberOptions (digits letters : List Char) : Except Char (List String) := do
  let step (read : Bool × String × List String) (c : Char) : Except Char (Bool × String × List String) :=
    let (bytes, unit, more) := read
    match c with
    | 'c' => .ok (true, "", more)
    | 'b' | 'k' | 'm' => .ok (true, c.toString, more)
    | 'l' => .ok (false, unit, more)
    | 'q' | 'v' | 'z' => .ok (bytes, unit, more ++ [String.ofList ['-', c]])
    | c => .error c
  let (bytes, unit, more) ← letters.foldlM step (false, "", [])
  return more ++ [if bytes then "-c" else "-n", String.ofList digits ++ unit]

def head : Utility := fun c =>
  let misplaced (d : Char) : Result := misused "head" 1 ("invalid trailing option -- " ++ d.toString)
  let run (arguments : List String) : Result := partsOfFiles "head" '-' startOf misplaced { c with arguments }
  match c.arguments with
  | [] => run []
  | w :: ws =>
    let digits := (w.toList.drop 1).takeWhile Char.isDigit
    if w.startsWith "-" ∧ digits ≠ [] then
      match numberOptions digits (w.toList.drop (1 + digits.length)) with
      | .ok os => run (os ++ ws)
      | .error l => misplaced l
    else run (w :: ws)

/-- The option that a word stands for with a sign, a number and a letter for what is counted. -/
def signedOption? (w : String) : Option (List String) :=
  let digits := (w.toList.drop 1).takeWhile Char.isDigit
  let option (letter unit : String) : Option (List String) :=
    some [letter, (w.take 1).toString ++ (if digits = [] then "10" else String.ofList digits) ++ unit]
  if !w.startsWith "+" && (!w.startsWith "-" || w = "-" || w = "-c") then none
  else match w.toList.drop (1 + digits.length) with
    | [] | ['l'] => option "-n" ""
    | ['c'] => option "-c" ""
    | ['b'] => option "-c" "b"
    | _ => none

def tail : Utility := fun c =>
  let misplaced (d : Char) : Result := failing 1 ("tail: option used in invalid context -- " ++ d.toString)
  let isFile (w : String) : Bool := !w.startsWith "-" || w = "-"
  let arguments := match c.arguments with
    | w :: ws =>
      let isAlone := match ws with
        | [] | ["--"] | ["--", _] => true
        | [file] => isFile file
        | _ => false
      match signedOption? w with
      | some os => if isAlone then os ++ ws else c.arguments
      | none => c.arguments
    | [] => []
  partsOfFiles "tail" '+' endOf misplaced { c with arguments }

end Utility

end TrafficShaping.Program
