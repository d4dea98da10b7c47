import TrafficShaping.Program.Pattern

/-!
# Regular expressions

Expressions are written in a basic and an extended form, which differ in the characters that need a
backslash to be operators. Matching goes through all ways that an expression matches the start of a text,
longer ones first where something is repeated, and keeps what is left of the text after each.
-/

namespace TrafficShaping.Program

/-- An expression. An edge is a condition on the character before a place and on the text behind it. What a
group matched can be asked for again. -/
inductive Regex where
  | empty
  | oneOf (p : Char → Bool)
  | edge (holds : Option Char → List Char → Bool)
  | both (first second : Regex)
  | either (first second : Regex)
  | repeated (r : Regex) (least : Nat) (most : Option Nat)
  | group (number : Nat) (r : Regex)
  | again (number : Nat)

namespace Regex

/-- What is wrong with the text of an expression. -/
inductive Fault where
  | openGroup
  | closedGroup
  | openSet
  | nothingToRepeat
  | lastBackslash
  | noGroup
  | badBounds
  | openBounds
  | badRange
  | noClass
  | invalid
deriving DecidableEq

def Fault.message : Fault → String
  | .openGroup => "Unmatched ( or \\("
  | .closedGroup => "Unmatched ) or \\)"
  | .openSet => "Unmatched [, [^, [:, [., or [="
  | .nothingToRepeat => "Invalid preceding regular expression"
  | .lastBackslash => "Trailing backslash"
  | .noGroup => "Invalid back reference"
  | .badBounds => "Invalid content of \\\x7b\\\x7d"
  | .openBounds => "Unmatched \\\x7b"
  | .badRange => "Invalid range end"
  | .noClass => "Invalid character class name"
  | .invalid => "Invalid regular expression"

/-! ## Matching -/

/-- Where a match is: the character before it, what is left, and what the groups matched. -/
structure Place where
  before : Option Char := none
  left : List Char
  groups : List (Nat × List Char) := []

/-- Moves on by so many characters. -/
def Place.advance (p : Place) (n : Nat) : Place :=
  { p with before := ((p.left.take n).getLast?).or p.before, left := p.left.drop n }

/-- All places that a repetition of a step leads to, at most so many times. -/
def iterate (step : Place → List Place) : Nat → Place → List Place
  | 0, p => [p]
  | n + 1, p =>
    ((step p).filter fun q => q.left.length < p.left.length).flatMap (iterate step n) ++ [p]

/-- Adds the places that any number of steps leads to, at most so many, to places found before, the last one
first. A way to a place where another one has led already is not gone on with. -/
def explore (step : Place → List Place) : Nat → List Place → Place → List Place
  | n, found, p =>
    if found.any fun q => q.left.length = p.left.length then found
    else match n with
      | 0 => p :: found
      | n + 1 => p :: ((step p).filter fun q => q.left.length < p.left.length).foldl (explore step n) found

/-- All places that so many steps lead to. -/
def times (step : Place → List Place) : Nat → Place → List Place
  | 0, p => [p]
  | n + 1, p => (step p).flatMap (times step n)

/-- The places after a match of an expression. -/
def after : Regex → Place → List Place
  | .empty, p => [p]
  | .oneOf t, p =>
    match p.left with
    | c :: cs => if t c then [{ p with before := some c, left := cs }] else []
    | [] => []
  | .edge holds, p => if holds p.before p.left then [p] else []
  | .both a b, p => (after a p).flatMap (after b)
  | .either a b, p => after a p ++ after b p
  | .repeated r least most, p =>
    let starts := times (after r) least p
    match most with
    | some m => starts.flatMap (iterate (after r) (m - least))
    | none => (starts.foldl (explore (after r) p.left.length) []).reverse
  | .group n r, p =>
    (after r p).map fun q =>
      { q with groups := (n, p.left.take (p.left.length - q.left.length)) :: q.groups.filter (·.1 != n) }
  | .again n, p =>
    match p.groups.lookup n with
    | some cs => if cs.isPrefixOf p.left then [p.advance cs.length] else []
    | none => []

/-- The longest match at a place. -/
def longest? (r : Regex) (p : Place) : Option Place :=
  (after r p).foldl (fun best q => match best with
    | some b => if q.left.length < b.left.length then some q else best
    | none => some q) none

/-- The places in a text from one on, at most so many more. -/
def placesFrom : Nat → Place → List Place
  | 0, p => [p]
  | n + 1, p => p :: placesFrom n (p.advance 1)

/-- Where the first match from a place on starts, and where it ends. -/
def find? (r : Regex) (p : Place) : Option (Place × Place) :=
  (placesFrom p.left.length p).findSome? fun q => (r.longest? q).map fun e => (q, e)

/-! ## Reading -/

/-- Whether members of a set start with a class that there is not. -/
def startsUnknownClass : List Char → Bool
  | '[' :: ':' :: cs =>
    let name := cs.takeWhile Char.isAlpha
    (charClass? (String.ofList name)).isNone && (cs.drop name.length).take 2 = [':', ']']
  | _ => false

/-- A set in brackets. -/
def set (cs : List Char) : Except Fault (Regex × List Char) :=
  let (negated, members) := match cs with
    | '^' :: members => (true, members)
    | members => (false, members)
  if members = [] then .error .invalid
  else match Pattern.set? (members.length + 1) true {} (members.map (·, false)) with
    | none => .error .openSet
    | some (s, rest) =>
      let read := members.take (members.length - rest.length)
      if (Pattern.suffixes read).any startsUnknownClass then .error .noClass
      else if s.ranges.any fun r => r.2 < r.1 then .error .badRange
      else .ok (.oneOf fun c => s.contains c != negated, rest.map (·.1))

/-- The numbers of a repetition, up to the brace that closes it. -/
def bounds? (cs : List Char) : Option (Nat × Option Nat × List Char) :=
  let digits (cs : List Char) := cs.takeWhile Char.isDigit
  let number (ds : List Char) : Nat := ds.foldl (fun n c => 10 * n + (c.toNat - 48)) 0
  let low := digits cs
  match cs.drop low.length with
  | ',' :: rest =>
    let high := digits rest
    some (number low, if high = [] then none else some (number high), rest.drop high.length)
  | rest => if low = [] then none else some (number low, some (number low), rest)

/-- Whether bounds are in the wrong order. -/
def areBackwards (low : Nat) (high : Option Nat) : Bool := high.any (· < low)

def isWordChar (c : Char) : Bool := c.isAlphanum || c = '_'

def isSpace (c : Char) : Bool := c = ' ' || 9 ≤ c.toNat && c.toNat ≤ 13

/-- The edges of words, and the sets that have a letter. -/
def named? (c : Char) : Option Regex :=
  let isWord (c : Option Char) : Bool := c.any isWordChar
  match c with
  | 'w' => some (.oneOf isWordChar)
  | 'W' => some (.oneOf (!isWordChar ·))
  | 's' => some (.oneOf isSpace)
  | 'S' => some (.oneOf (!isSpace ·))
  | 'b' => some (.edge fun before left => isWord before != isWord left.head?)
  | 'B' => some (.edge fun before left => isWord before == isWord left.head?)
  | '<' => some (.edge fun before left => !isWord before && isWord left.head?)
  | '>' => some (.edge fun before left => isWord before && !isWord left.head?)
  | _ => none

def lineStart : Regex := .edge fun before _ => before.isNone

def lineEnd : Regex := .edge fun _ left => left.isEmpty

mutual

/-- Reads alternatives. -/
def alternatives (extended : Bool) : Nat → List Char → Except Fault (Regex × List Char)
  | 0, _ => .error .openGroup
  | n + 1, cs => do
    let (a, rest) ← sequence extended n true .empty cs
    match extended, rest with
    | true, '|' :: rest | false, '\\' :: '|' :: rest =>
      let (b, rest) ← alternatives extended n rest
      return (.either a b, rest)
    | _, rest => return (a, rest)

/-- Reads what follows one another. -/
def sequence (extended : Bool) : Nat → Bool → Regex → List Char → Except Fault (Regex × List Char)
  | 0, _, _, _ => .error .openGroup
  | n + 1, isFirst, before, cs =>
    let ends := match extended, cs with
      | _, [] => true
      | true, '|' :: _ | true, ')' :: _ => true
      | false, '\\' :: '|' :: _ | false, '\\' :: ')' :: _ => true
      | _, _ => false
    if ends then .ok (before, cs)
    else do
      let (a, rest) ← atom extended n isFirst cs
      let (a, rest) ← suffixed extended n a rest
      let staysFirst := match extended, cs with
        | false, '^' :: _ => isFirst
        | _, _ => false
      sequence extended n staysFirst (.both before a) rest

/-- Reads the repetitions after an expression. -/
def suffixed (extended : Bool) : Nat → Regex → List Char → Except Fault (Regex × List Char)
  | 0, a, cs => .ok (a, cs)
  | n + 1, a, cs =>
    match extended, cs with
    | _, '*' :: rest => suffixed extended n (.repeated a 0 none) rest
    | true, '+' :: rest | false, '\\' :: '+' :: rest => suffixed extended n (.repeated a 1 none) rest
    | true, '?' :: rest | false, '\\' :: '?' :: rest => suffixed extended n (.repeated a 0 (some 1)) rest
    | true, '\x7b' :: rest =>
      match bounds? rest with
      | some (low, high, '\x7d' :: rest) =>
        if areBackwards low high then .error .badBounds else suffixed extended n (.repeated a low high) rest
      | _ => .ok (a, cs)
    | false, '\\' :: '\x7b' :: rest =>
      match bounds? rest with
      | some (low, high, '\\' :: '\x7d' :: rest) =>
        if areBackwards low high then .error .badBounds else suffixed extended n (.repeated a low high) rest
      | some (_, _, []) | none => .error .openBounds
      | _ => .error .badBounds
    | _, cs => .ok (a, cs)

/-- Reads one character, set or group. -/
def atom (extended : Bool) : Nat → Bool → List Char → Except Fault (Regex × List Char)
  | 0, _, _ => .error .openGroup
  | n + 1, isFirst, cs =>
    match extended, cs with
    | true, '(' :: rest => do
      match ← alternatives extended n rest with
      | (a, ')' :: rest) => return (.group 0 a, rest)
      | _ => throw .openGroup
    | false, '\\' :: '(' :: rest => do
      match ← alternatives extended n rest with
      | (a, '\\' :: ')' :: rest) => return (.group 0 a, rest)
      | _ => throw .openGroup
    | _, '.' :: rest => .ok (.oneOf fun _ => true, rest)
    | _, '[' :: rest => set rest
    | true, '^' :: rest => .ok (lineStart, rest)
    | true, '$' :: rest => .ok (lineEnd, rest)
    | false, ['$'] => .ok (lineEnd, [])
    | false, '$' :: '\\' :: ')' :: rest => .ok (lineEnd, '\\' :: ')' :: rest)
    | false, '$' :: '\\' :: '|' :: rest => .ok (lineEnd, '\\' :: '|' :: rest)
    | _, ['\\'] => .error .lastBackslash
    | _, '\\' :: c :: rest =>
      match named? c with
      | some r => .ok (r, rest)
      | none =>
        if c.isDigit && c ≠ '0' then .ok (.again (c.toNat - 48), rest)
        else if c = 'n' then .ok (.oneOf (· == '\n'), rest)
        else .ok (.oneOf (· == c), rest)
    | false, '^' :: rest => if isFirst then .ok (lineStart, rest) else .ok (.oneOf (· == '^'), rest)
    | true, '*' :: rest => if isFirst then .ok (.oneOf (· == '*'), rest) else .error .nothingToRepeat
    | _, c :: rest => .ok (.oneOf (· == c), rest)
    | _, [] => .error .lastBackslash

end

/-- Numbers the groups in the order in which they open, from one on. -/
def numbered : Regex → Nat → Regex × Nat
  | .both a b, n =>
    let (a, n) := numbered a n
    let (b, n) := numbered b n
    (.both a b, n)
  | .either a b, n =>
    let (a, n) := numbered a n
    let (b, n) := numbered b n
    (.either a b, n)
  | .repeated r least most, n =>
    let (r, n) := numbered r n
    (.repeated r least most, n)
  | .group _ r, n =>
    let (r, m) := numbered r (n + 1)
    (.group n r, m)
  | r, n => (r, n)

/-- The groups that are asked for again. -/
def references : Regex → List Nat
  | .both a b | .either a b => references a ++ references b
  | .repeated r _ _ | .group _ r => references r
  | .again n => [n]
  | _ => []

/-- Reads an expression. -/
def read (extended : Bool) (s : String) : Except Fault Regex := do
  let (r, rest) ← alternatives extended (8 * (s.length + 1)) s.toList
  if rest ≠ [] then throw .closedGroup
  let (r, groups) := r.numbered 1
  if (references r).any (groups ≤ ·) then throw .noGroup
  return r

/-- How many groups an expression has. -/
def groupCount : Regex → Nat
  | .both a b | .either a b => groupCount a + groupCount b
  | .repeated r _ _ => groupCount r
  | .group _ r => groupCount r + 1
  | _ => 0

/-- An expression that matches a text alone. -/
def literal (s : String) : Regex := s.toList.foldr (fun c r => .both (.oneOf (· == c)) r) .empty

/-- An expression for which upper and lower case are the same. -/
def ignoringCase : Regex → Regex
  | .oneOf p => .oneOf fun c => p c.toLower || p c.toUpper
  | .both a b => .both (ignoringCase a) (ignoringCase b)
  | .either a b => .either (ignoringCase a) (ignoringCase b)
  | .repeated r least most => .repeated (ignoringCase r) least most
  | .group n r => .group n (ignoringCase r)
  | r => r

end Regex

end TrafficShaping.Program
