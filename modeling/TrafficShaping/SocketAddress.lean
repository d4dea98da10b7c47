import TrafficShaping.Number.Decimal
import TrafficShaping.Text.Blank
import TrafficShaping.Text.Quoted

/-!
# Socket addresses

An address of the internet with a port: four octets, or eight groups of 16 bits between brackets, possibly
with a zone. Of an address of the second kind there are many spellings; it is written with the longest run
of at least two zero groups left out, and with four octets at its end if it stands for an address of the
first kind.

Every part of the reader takes what it reads off the front of a list of characters.
-/

namespace TrafficShaping

inductive SocketAddress where
  | v4 (octets : List Nat) (port : Nat)
  | v6 (groups : List Nat) (zone port : Nat)
deriving DecidableEq

namespace SocketAddress

/-! ## Writing -/

/-- A run of zero groups: where it starts and how long it is. -/
structure ZeroRun where
  start : Nat := 0
  length : Nat := 0

/-- The first longest run of zero groups. -/
def longestZeros (groups : List Nat) : ZeroRun :=
  (groups.zipIdx.foldl (fun (longest, current) (g, i) =>
    if g ≠ 0 then (longest, {})
    else
      let current : ZeroRun :=
        if current.length = 0 then ⟨i, 1⟩ else ⟨current.start, current.length + 1⟩
      (if longest.length < current.length then current else longest, current))
    (({}, {}) : ZeroRun × ZeroRun)).1

def octetsText (octets : List Nat) : String :=
  Text.joinWith "." (octets.map Number.naturalText)

def groupsText (groups : List Nat) : String :=
  Text.joinWith ":" (groups.map fun g => String.ofList (Text.hexDigits g))

/-- The text of eight groups. -/
def hostText (groups : List Nat) : String :=
  match groups with
  | [0, 0, 0, 0, 0, 0xffff, a, b] => "::ffff:" ++ octetsText [a / 256, a % 256, b / 256, b % 256]
  | groups =>
    let zeros := longestZeros groups
    if 1 < zeros.length then
      groupsText (groups.take zeros.start) ++ "::" ++
        groupsText (groups.drop (zeros.start + zeros.length))
    else groupsText groups

def text : SocketAddress → String
  | .v4 octets port => octetsText octets ++ ":" ++ Number.naturalText port
  | .v6 groups zone port =>
    "[" ++ hostText groups ++ (if zone = 0 then "" else "%" ++ Number.naturalText zone) ++ "]:" ++
      Number.naturalText port

/-! ## Reading -/

/-- The value of a digit of either case in a base up to 16. -/
def digitIn? (base : Nat) (c : Char) : Option Nat :=
  let n := c.toNat
  let d := if 48 ≤ n ∧ n ≤ 57 then n - 48
    else if 97 ≤ n ∧ n ≤ 102 then n - 87
    else if 65 ≤ n ∧ n ≤ 70 then n - 55
    else base
  if d < base then some d else none

/-- A number below a limit, of as many digits as there are but at most so many. -/
def takeNumber (base maxDigits limit : Nat) (cs : List Char) : Option (Nat × List Char) :=
  let digits := cs.takeWhile fun c => (digitIn? base c).isSome
  let n := digits.foldl (fun n c => base * n + (digitIn? base c).getD 0) 0
  if digits = [] ∨ maxDigits < digits.length ∨ limit ≤ n then none
  else some (n, cs.drop digits.length)

def takeChar (c : Char) : List Char → Option (List Char)
  | [] => none
  | d :: cs => if d = c then some cs else none

/-- A number of up to three digits below 256, without a leading zero. -/
def takeOctet (cs : List Char) : Option (Nat × List Char) := do
  let (n, rest) ← takeNumber 10 3 256 cs
  if cs.head? = some '0' ∧ cs.length ≠ rest.length + 1 then none else some (n, rest)

def takeOctets (cs : List Char) : Option (List Nat × List Char) := do
  let (a, cs) ← takeOctet cs
  let (b, cs) ← takeOctet (← takeChar '.' cs)
  let (c, cs) ← takeOctet (← takeChar '.' cs)
  let (d, cs) ← takeOctet (← takeChar '.' cs)
  return ([a, b, c, d], cs)

def takePort (cs : List Char) : Option (Nat × List Char) :=
  (takeChar ':' cs).bind fun cs => takeNumber 10 cs.length 65536 cs

/-- Up to so many groups with colons between them, and whether the last two were written as four octets. -/
def takeGroups : Nat → Bool → List Char → List Nat × Bool × List Char
  | 0, _, cs => ([], false, cs)
  | n + 1, isFirst, cs =>
    let start := if isFirst then some cs else takeChar ':' cs
    match if n = 0 then none else start.bind takeOctets with
    | some ([a, b, c, d], rest) => ([256 * a + b, 256 * c + d], true, rest)
    | _ =>
      match start.bind (takeNumber 16 4 65536) with
      | none => ([], false, cs)
      | some (g, rest) =>
        let (gs, octets, rest) := takeGroups n false rest
        (g :: gs, octets, rest)

/-- Eight groups, some of which may be left out where there are two colons in a row. -/
def takeHost (cs : List Char) : Option (List Nat × List Char) :=
  let (front, octets, cs) := takeGroups 8 true cs
  if front.length = 8 then some (front, cs)
  else if octets then none
  else do
    let cs ← takeChar ':' (← takeChar ':' cs)
    let (back, _, cs) := takeGroups (7 - front.length) true cs
    return (front ++ List.replicate (8 - front.length - back.length) 0 ++ back, cs)

/-- The zone after a percent sign; zero if there is none. -/
def takeZone (cs : List Char) : Nat × List Char :=
  ((takeChar '%' cs).bind fun cs => takeNumber 10 cs.length (Nat.pow 2 32) cs).getD (0, cs)

def takeV4 (cs : List Char) : Option (SocketAddress × List Char) := do
  let (octets, cs) ← takeOctets cs
  let (port, cs) ← takePort cs
  return (.v4 octets port, cs)

def takeV6 (cs : List Char) : Option (SocketAddress × List Char) := do
  let (groups, cs) ← takeHost (← takeChar '[' cs)
  let (zone, cs) := takeZone cs
  let (port, cs) ← takePort (← takeChar ']' cs)
  return (.v6 groups zone port, cs)

/-- Reads an address to the end of the text. -/
def read? (s : String) : Option SocketAddress :=
  match (takeV4 s.toList).or (takeV6 s.toList) with
  | some (a, []) => some a
  | _ => none

end SocketAddress

end TrafficShaping
