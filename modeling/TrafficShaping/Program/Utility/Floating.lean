import TrafficShaping.Number.Binary64
import TrafficShaping.Program.Utility.Basic

/-!
# Numbers with a fraction

A number with a fraction is read with as many binary digits as its reader keeps, and written in decimal or in
hexadecimal, with a number of places or with a number of digits. What is too large to be kept is infinite,
and there is a value for what is no number at all.
-/

namespace TrafficShaping.Program

namespace Utility

/-- How many binary digits are kept and how many of them are in front of the point in hexadecimal, and which
exponents there are. -/
structure Precision where
  digits : Nat
  leading : Nat
  minExponent : Int
  maxExponent : Int

def Precision.double : Precision := ⟨53, 1, -1074, 971⟩

def Precision.extended : Precision := ⟨64, 4, -16445, 16320⟩

inductive Floating where
  | finite (negative : Bool) (mantissa : Nat) (exponent : Int)
  | infinite (negative : Bool)
  | notNumber (negative : Bool)

namespace Floating

def zero (negative : Bool) : Floating := .finite negative 0 0

def isNegative : Floating → Bool
  | .finite n _ _ | .infinite n | .notNumber n => n

/-! ## Reading -/

open Number.Binary64 (scaled roundDiv)

/-- The number nearest to a quotient, and whether it lies within the range in which all digits are kept. -/
def round (p : Precision) (negative : Bool) (num den : Nat) : Floating × Bool :=
  if num = 0 then (zero negative, true)
  else
    let guess : Int := (num.log2 : Int) - den.log2 - (p.digits - 1 : Nat)
    let full := Nat.pow 2 (p.digits - 1)
    let (n, d) := scaled num den (-guess)
    let e := max p.minExponent (if n < full * d then guess - 1 else guess)
    let (n, d) := scaled num den (-e)
    let m := roundDiv n d
    let (m, e) := if m = 2 * full then (full, e + 1) else (m, e)
    if p.maxExponent < e then (.infinite negative, false)
    else (.finite negative m e, full ≤ m || m * d = n)

/-- Digits with a point among them, as an integer and how many of them follow the point; and what is left. There
has to be a digit. -/
def mantissa? (base : Nat) (cs : List Char) : Option (Nat × Nat × List Char) :=
  let isDigit (c : Char) : Bool := (digitOf? base c).isSome
  let whole := cs.takeWhile isDigit
  let rest := cs.drop whole.length
  let (fraction, rest) := match rest with
    | '.' :: more => let ds := more.takeWhile isDigit; (ds, more.drop ds.length)
    | _ => ([], rest)
  match (whole ++ fraction).filterMap (digitOf? base) with
  | [] => none
  | ds => some (ds.foldl (fun n d => base * n + d) 0, fraction.length, rest)

/-- The largest exponent that is told from larger ones. -/
def exponentLimit : Nat := 40000

/-- An exponent that one of these letters announces, and what is left. -/
def exponent (letters : List Char) (cs : List Char) : Int × List Char :=
  match cs with
  | c :: more =>
    if letters.contains c then
      let (down, digits) := match more with
        | '-' :: ds => (true, ds)
        | '+' :: ds => (false, ds)
        | ds => (false, ds)
      let ds := digits.takeWhile Char.isDigit
      match Number.natural? ds with
      | some n => (if down then -(min n exponentLimit : Nat) else (min n exponentLimit : Nat), digits.drop ds.length)
      | none => (0, cs)
    else (0, cs)
  | [] => (0, [])

/-- A text without a word that it starts with in any case of letters. -/
def without? (word : String) (cs : List Char) : Option (List Char) :=
  if (cs.take word.length).map Char.toLower = word.toList then some (cs.drop word.length) else none

/-- What may follow the word for what is no number: anything in parentheses. -/
def dropNote (cs : List Char) : List Char :=
  match cs with
  | '(' :: more =>
    match more.dropWhile fun c => c.isAlphanum || c = '_' with
    | ')' :: rest => rest
    | _ => cs
  | cs => cs

/-- What reading a number comes to: the number, whether all its digits could be kept, and what is left. -/
structure Reading where
  value : Floating
  isInRange : Bool := true
  rest : List Char

/-- The number that a text without a sign starts with. -/
def unsigned? (p : Precision) (negative : Bool) (cs : List Char) : Option Reading :=
  let decimal : Option Reading := do
    let (n, places, rest) ← mantissa? 10 cs
    let (e, rest) := exponent ['e', 'E'] rest
    let (num, den) :=
      if e < places then (n, Nat.pow 10 (places - e).natAbs) else (n * Nat.pow 10 (e - places).natAbs, 1)
    let (value, isInRange) := round p negative num den
    return ⟨value, isInRange, rest⟩
  let hexadecimal : Option Reading := do
    let (n, places, rest) ← mantissa? 16 (← without? "0x" cs)
    let (e, rest) := exponent ['p', 'P'] rest
    let (num, den) := scaled n 1 (e - 4 * places)
    let (value, isInRange) := round p negative num den
    return ⟨value, isInRange, rest⟩
  let infinite : Option Reading :=
    ((without? "infinity" cs).or (without? "inf" cs)).map fun rest => ⟨.infinite negative, true, rest⟩
  let notNumber : Option Reading :=
    (without? "nan" cs).map fun rest => ⟨.notNumber negative, true, dropNote rest⟩
  ((hexadecimal.or decimal).or infinite).or notNumber

/-- The number that a text starts with. -/
def read? (p : Precision) (cs : List Char) : Option Reading :=
  match cs.dropWhile fun c => c = ' ' || 9 ≤ c.toNat && c.toNat ≤ 13 with
  | '-' :: cs => unsigned? p true cs
  | '+' :: cs => unsigned? p false cs
  | cs => unsigned? p false cs

/-! ## Writing -/

/-- A quotient with so many decimal places. -/
def fixed (places num den : Nat) : String :=
  let n := roundDiv (num * Nat.pow 10 places) den
  let ds := padded (places + 1) '0' (Number.naturalText n)
  if places = 0 then ds
  else
    let cs := ds.toList
    String.ofList (cs.take (cs.length - places)) ++ "." ++ String.ofList (cs.drop (cs.length - places))

/-- The exponent of the first digit of a quotient. -/
def magnitude (num den : Nat) : Int :=
  if den ≤ num then (Number.digits (num / den)).length - 1
  else
    let n := (Number.digits (den / num)).length
    if den ≤ num * Nat.pow 10 (n - 1) then -(n - 1 : Nat) else -n

/-- A quotient as digits and a power of ten. -/
def scientific (places num den : Nat) : String × Int :=
  if num = 0 then (fixed places 0 1, 0)
  else
    let k := magnitude num den
    let at10 (k : Int) : String :=
      if 0 ≤ k then fixed places num (den * Nat.pow 10 k.natAbs) else fixed places (num * Nat.pow 10 k.natAbs) den
    let s := at10 k
    if (s.toList.takeWhile Char.isDigit).length = 1 then (s, k) else (at10 (k + 1), k + 1)

/-- An exponent with its sign and at least so many digits. -/
def exponentText (mark : String) (width : Nat) (e : Int) : String :=
  mark ++ (if e < 0 then "-" else "+") ++ padded width '0' (Number.naturalText e.natAbs)

/-- A decimal without zeros at the end of its fraction. -/
def withoutTrailingZeros (s : String) : String :=
  if s.contains '.' then Text.trimEndOf '.' (Text.trimEndOf '0' s) else s

/-- A quotient by a decimal conversion. -/
def decimalText (conversion : Char) (alternate : Bool) (precision num den : Nat) : String :=
  let pointed (s : String) : String := if alternate && !s.contains '.' then s ++ "." else s
  match conversion with
  | 'f' => pointed (fixed precision num den)
  | 'e' => let (s, e) := scientific precision num den; pointed s ++ exponentText "e" 2 e
  | _ =>
    let p := max precision 1
    let (s, e) := scientific (p - 1) num den
    let tidy (s : String) := if alternate then pointed s else withoutTrailingZeros s
    if e < -4 ∨ p ≤ e then tidy s ++ exponentText "e" 2 e
    else tidy (fixed ((p : Int) - 1 - e).toNat num den)

/-- A number in hexadecimal, behind the mark of the base. There is one digit in front of the point, also if it was
rounded up to two. -/
def hexadecimalText (p : Precision) (alternate : Bool) (places : Option Nat) (m : Nat) (e : Int) : String :=
  let all := (p.digits - p.leading) / 4
  let kept := min (places.getD all) all
  let n := roundDiv m (Nat.pow 16 (all - kept))
  let isLong := Nat.pow 16 (kept + 1) ≤ n
  let n := if isLong then n / 16 else n
  let digits := padded (kept + 1) '0' (String.ofList (Nat.toDigits 16 n))
  let whole := String.ofList (digits.toList.take (digits.length - kept))
  let fraction := String.ofList (digits.toList.drop (digits.length - kept))
  let fraction := match places with
    | some n => fraction ++ "".pushn '0' (n - kept)
    | none => Text.trimEndOf '0' fraction
  let e := if m = 0 then 0 else e + 4 * (if isLong then all + 1 else all)
  whole ++ (if fraction = "" && !alternate then "" else ".") ++ fraction ++ exponentText "p" 1 e

/-- The digits of a number by a conversion, and the mark in front of them. What has no digits is a word. -/
def text (p : Precision) (conversion : Char) (alternate : Bool) (places : Option Nat) : Floating → String × String
  | .infinite _ => ("", "inf")
  | .notNumber _ => ("", "nan")
  | .finite _ m e =>
    if conversion = 'a' then ("0x", hexadecimalText p alternate places m e)
    else
      let (num, den) := scaled m 1 e
      ("", decimalText conversion alternate (places.getD 6) num den)

def isFinite : Floating → Bool
  | .finite _ _ _ => true
  | _ => false

end Floating

end Utility

end TrafficShaping.Program
