/-!
# Patterns

A pattern is a text in which some characters that were not quoted stand for others. It matches a text as a
whole.
-/

namespace TrafficShaping.Program

/-- A set of characters: ranges, and a test for each class that is named. -/
structure CharSet where
  ranges : List (Char × Char) := []
  classes : List (Char → Bool) := []

def CharSet.contains (s : CharSet) (c : Char) : Bool :=
  s.ranges.any (fun r => r.1 ≤ c && c ≤ r.2) || s.classes.any (· c)

/-- The characters of a class. -/
def charClass? : String → Option (Char → Bool)
  | "alpha" => some Char.isAlpha
  | "digit" => some Char.isDigit
  | "alnum" => some Char.isAlphanum
  | "upper" => some Char.isUpper
  | "lower" => some Char.isLower
  | "space" => some fun c => c = ' ' || 9 ≤ c.toNat && c.toNat ≤ 13
  | "blank" => some fun c => c = ' ' || c = '\t'
  | "cntrl" => some fun c => c.toNat < 32 || c.toNat = 127
  | "print" => some fun c => 32 ≤ c.toNat && c.toNat < 127
  | "graph" => some fun c => 32 < c.toNat && c.toNat < 127
  | "punct" => some fun c => 32 < c.toNat && c.toNat < 127 && !c.isAlphanum
  | "xdigit" => some fun c => c.isDigit || 'a' ≤ c && c ≤ 'f' || 'A' ≤ c && c ≤ 'F'
  | _ => none

/-- A character of a text, and whether it was quoted. -/
abbrev Written := Char × Bool

/-- What a part of a pattern matches. -/
inductive Wild where
  | char (c : Char)
  | any
  | many
  | oneOf (negated : Bool) (set : CharSet)

abbrev Pattern := List Wild

namespace Pattern

/-- Reads the members of a set up to its end, which the first member cannot be. Every member takes a
character at least. -/
def set? : Nat → Bool → CharSet → List Written → Option (CharSet × List Written)
  | 0, _, _, _ => none
  | n + 1, isFirst, s, cs =>
    match cs with
    | [] => none
    | (']', false) :: rest =>
      if isFirst then set? n false { s with ranges := (']', ']') :: s.ranges } rest else some (s, rest)
    | ('[', false) :: (':', false) :: rest =>
      let name := (rest.takeWhile (·.1.isAlpha)).map (·.1)
      match charClass? (String.ofList name), rest.drop name.length with
      | some p, (':', false) :: (']', false) :: rest =>
        set? n false { s with classes := p :: s.classes } rest
      | _, _ => set? n false { s with ranges := ('[', '[') :: s.ranges } ((':', false) :: rest)
    | (a, _) :: ('-', false) :: (b, q) :: rest =>
      if b = ']' ∧ q = false then
        set? n false { s with ranges := (a, a) :: s.ranges } (('-', false) :: (b, q) :: rest)
      else set? n false { s with ranges := (a, b) :: s.ranges } rest
    | (a, _) :: rest => set? n false { s with ranges := (a, a) :: s.ranges } rest

/-- Reads a pattern; every part of it takes a character at least. -/
def read : Nat → List Written → Pattern
  | 0, _ => []
  | n + 1, cs =>
    match cs with
    | [] => []
    | ('*', false) :: rest => .many :: read n rest
    | ('?', false) :: rest => .any :: read n rest
    | ('[', false) :: rest =>
      let (negated, members) := match rest with
        | ('!', false) :: members | ('^', false) :: members => (true, members)
        | members => (false, members)
      match set? (members.length + 1) true {} members with
      | some (s, rest) => .oneOf negated s :: read n rest
      | none => .char '[' :: read n rest
    | (c, _) :: rest => .char c :: read n rest

def ofWritten (cs : List Written) : Pattern := read (cs.length + 1) cs

/-- What is left of a list after any number of items, the whole list first. -/
def suffixes {α : Type} : List α → List (List α)
  | [] => [[]]
  | c :: cs => (c :: cs) :: suffixes cs

/-- Whether a pattern matches a text as a whole. -/
def covers : Pattern → List Char → Bool
  | [], cs => cs.isEmpty
  | .many :: p, cs => (suffixes cs).any (covers p)
  | .any :: p, _ :: cs => covers p cs
  | .char c :: p, d :: cs => c = d && covers p cs
  | .oneOf negated s :: p, c :: cs => (s.contains c != negated) && covers p cs
  | _ :: _, [] => false

/-- A text without the shortest or longest start that a pattern matches. -/
def dropStart (p : Pattern) (longest : Bool) (cs : List Char) : List Char :=
  let fits := (suffixes cs).filter fun rest => covers p (cs.take (cs.length - rest.length))
  ((if longest then fits.getLast? else fits.head?)).getD cs

/-- A text without the shortest or longest end that a pattern matches. -/
def dropEnd (p : Pattern) (longest : Bool) (cs : List Char) : List Char :=
  let fits := (suffixes cs).filter (covers p)
  match (if longest then fits.head? else fits.getLast?) with
  | some rest => cs.take (cs.length - rest.length)
  | none => cs

end Pattern

end TrafficShaping.Program
