import TrafficShaping.Program.Utility.Format

/-!
# Numbers and spans of time

Numbers with decimal places are kept exactly, as an integer and how many of its digits are places. `seq`
writes all numbers from one to another in steps.
-/

namespace TrafficShaping.Program

namespace Utility

/-- A number with decimal places: its digits as an integer, and how many of them are places. It may have an
exponent, which moves the point. -/
def decimal? (s : String) : Option (Int × Nat) := do
  let (negative, cs) := match s.toList with
    | '-' :: cs => (true, cs)
    | '+' :: cs => (false, cs)
    | cs => (false, cs)
  let mantissa := cs.takeWhile fun c => c.isDigit || c = '.'
  let places := (mantissa.dropWhile (· ≠ '.')).length - 1
  let (points, digits) := mantissa.partition (· = '.')
  let digits ← if points.length ≤ 1 then Number.natural? digits else none
  let exponent : Int ← match cs.drop mantissa.length with
    | [] => some 0
    | e :: more => if e = 'e' || e = 'E' then integer? (String.ofList more) else none
  let shift : Int := exponent - places
  let n : Int := if negative then -digits else digits
  if 400 < shift.natAbs then none
  else if 0 ≤ shift then return (n * (Nat.pow 10 shift.natAbs : Nat), 0)
  else return (n, shift.natAbs)

/-- An integer as a number with decimal places. -/
def placesText (places : Nat) (n : Int) : String :=
  (if n < 0 then "-" else "") ++ Floating.fixed places n.natAbs (Nat.pow 10 places)

/-! ## Spans of time -/

/-- A span of time that nobody waits for. -/
def endless : Nat := Nat.pow 10 15

/-- A span of time in thousandths of a second, with a letter for its unit. -/
def interval? (s : String) : Option Nat :=
  let unit := match s.toList.getLast? with
    | some 's' => some 1
    | some 'm' => some 60
    | some 'h' => some 3600
    | some 'd' => some 86400
    | _ => none
  let number := if unit.isSome then String.ofList s.toList.dropLast else s
  match decimal? number with
  | some (n, places) => if n < 0 then none else some (n.toNat * 1000 * unit.getD 1 / Nat.pow 10 places)
  | none => if ["inf", "infinity"].contains (number.map Char.toLower) then some endless else none

/-- The time that `sleep` waits for in all. -/
def spanOf (times : List String) : Nat := times.foldl (fun total t => total + (interval? t).getD 0) 0

def sleep : Utility := withOptions "sleep" 1 { letters := "" } fun _ g =>
  match g.operands, g.operands.filter fun w => (interval? w).isNone with
  | [], _ => misused "sleep" 1 "missing operand"
  | times, [] => { lasts := 1000 * spanOf times }
  | _, ws =>
    failing 1 (lines (ws.map fun w => "sleep: invalid time interval " ++ quoted w) ++ hint "sleep")

/-! ## Sequences -/

/-- The numbers of a sequence as texts, with as many decimal places as its first number and its step. -/
def countUp (first step last : Int × Nat) : List String :=
  let places := max first.2 (max step.2 last.2)
  let scaled (d : Int × Nat) : Int := d.1 * (Nat.pow 10 (places - d.2) : Nat)
  let shown := max first.2 step.2
  let steps := ((scaled last - scaled first) / scaled step + 1).toNat
  (List.range steps).map fun (i : Nat) =>
    placesText shown ((scaled first + (i : Int) * scaled step) / (Nat.pow 10 (places - shown) : Nat))

/-- Texts of numbers brought to the same width with zeros. -/
def sameWidth (texts : List String) : List String :=
  let width := (texts.map String.length).foldl max 0
  texts.map fun s =>
    match Text.stripStart? "-" s with
    | some digits => "-" ++ padded (width - 1) '0' digits
    | none => padded width '0' s

/-- What is around the only directive of a format, whose percent sign is left out; otherwise a complaint. -/
def directiveOf (format : String) : Except String (List Char × List Char) :=
  let rec split : List Char → List Char × List Char
    | [] => ([], [])
    | '%' :: '%' :: cs => let (a, b) := split cs; ('%' :: a, b)
    | '%' :: cs => ([], '%' :: cs)
    | c :: cs => let (a, b) := split cs; (c :: a, b)
  let complain (s : String) : Except String (List Char × List Char) := .error ("format " ++ quoted format ++ s)
  match split format.toList with
  | (_, []) => complain " has no % directive"
  | (before, _ :: cs) =>
    let parts := cs.dropWhile fun c => "-+ #0'.".toList.contains c || c.isDigit
    match parts with
    | [] => complain " ends in %"
    | conversion :: after =>
      if !"aefgAEFG".toList.contains conversion then
        complain (" has unknown %" ++ conversion.toString ++ " directive")
      else if (split after).2 ≠ [] then complain " has too many % directives"
      else .ok (before, cs)

/-- Writes a number by a format. -/
def formatted (before directive : List Char) (s : String) : String :=
  let (p, rest) := direct programDialect { values := [s] } directive
  String.ofList before ++ String.join p.out.reverse ++ (String.ofList rest).replace "%%" "%"

/-- Ends the options before the first number that is negative. -/
def negativesAsOperands : List String → List String
  | [] => []
  | w :: ws =>
    match w.toList with
    | '-' :: c :: _ =>
      if w = "--" then w :: ws
      else if c.isDigit || c = '.' then "--" :: w :: ws
      else if w = "-s" || w = "-f" then w :: ws.take 1 ++ negativesAsOperands (ws.drop 1)
      else w :: negativesAsOperands ws
    | _ => w :: ws
termination_by ws => ws.length
decreasing_by all_goals simp +arith

def seq : Utility := fun c =>
  let o : Options := {
    letters := "f:s:w"
    names := [("separator", 's'), ("equal-width", 'w'), ("format", 'f')]
    areInFront := true }
  withOptions "seq" 1 o (fun _ g =>
    let wrong (complaint : String) : Result := misused "seq" 1 complaint
    let write (first step last : String) : Result :=
      match decimal? first, decimal? step, decimal? last with
      | some f, some s, some l =>
        if s.1 = 0 then wrong ("invalid Zero increment value: " ++ quoted step)
        else
          let texts := countUp f s l
          let put (texts : List String) : Result :=
            if texts = [] then {} else writing (Text.joinWith ((g.value? 's').getD "\n") texts ++ "\n")
          match g.value? 'f' with
          | none => put (if g.has 'w' then sameWidth texts else texts)
          | some format =>
            match directiveOf format with
            | .error e => failing 1 ("seq: " ++ e)
            | .ok (before, directive) =>
              if g.has 'w' then wrong "format string may not be specified when printing equal width strings"
              else put (texts.map (formatted before directive))
      | _, _, _ => {}
    match g.operands, g.operands.find? fun w => (decimal? w).isNone with
    | [], _ => wrong "missing operand"
    | _ :: _ :: _ :: w :: _, _ => wrong ("extra operand " ++ quoted w)
    | _, some w => wrong ("invalid floating point argument: " ++ quoted w)
    | [last], none => write "1" "1" last
    | [first, last], none => write first "1" last
    | [first, step, last], none => write first step last) { c with arguments := negativesAsOperands c.arguments }

/-- Writes a line again and again. -/
def yes : Utility := withOptions "yes" 1 { letters := "", areInFront := true } fun _ g =>
  let line := (if g.operands = [] then "y" else Text.joinWith " " g.operands) ++ "\n"
  writing (String.join (List.replicate (Disk.enough / line.length + 1) line))

end Utility

end TrafficShaping.Program
