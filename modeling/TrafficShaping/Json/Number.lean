import TrafficShaping.Json.Basic
import TrafficShaping.Number.Shortest

/-!
# JSON numbers as integers and doubles

An integer is a number written as one: neither a fraction nor an exponent, and no minus before a zero.

Any number can be read as a double. The digits are gathered into a significand for as long as it fits 64
bits, the digits past that only move the point, and the significand is scaled by powers of ten in double
arithmetic. The last place may therefore differ from the nearest double's when there are more digits than
a double holds. A number too large for a double has no reading; one too small is zero.

A double is written by its shortest decimal.
-/

namespace TrafficShaping.Json.Number

open TrafficShaping.Number

/-- The integer that a number is written as. -/
def integer? (n : Json.Number) : Option Int :=
  if n.fraction.isEmpty && n.exponent.isNone then
    let v := value n.whole
    if n.negative then (if v = 0 then none else some (-v)) else some v
  else none

/-- The integer that a number is written as, if it lies between two bounds. -/
def between? (low high : Int) (n : Json.Number) : Option Int :=
  n.integer?.filter fun i => low ≤ i && i ≤ high

/-- Gathers digits while the significand fits 64 bits; also gives the digits that are left. -/
def gather (significand : Nat) : List Digit → Nat × List Digit
  | [] => (significand, [])
  | d :: ds =>
    let next := 10 * significand + d.val
    if next < Nat.pow 2 64 then gather next ds else (significand, d :: ds)

/-- The largest power of ten that scaling uses in one step. -/
def stride : Nat := 308

/-- Scales by a power of ten in steps. Two steps down take every significand to zero, so three suffice. -/
def scale (x : Binary64) (exponent : Int) : Nat → Option Binary64
  | 0 => some x
  | steps + 1 =>
    if exponent.natAbs ≤ stride then
      (Binary64.powerOfTen exponent.natAbs).bind fun p =>
        if 0 ≤ exponent then x.mul? p else x.div? p
    else if x.isZero then some x
    else if 0 ≤ exponent then none
    else
      ((Binary64.powerOfTen stride).bind x.div?).bind fun x => scale x (exponent + stride) steps

/-- The double that a number reads as. -/
def double? (n : Json.Number) : Option Binary64 :=
  let (s, wholeLeft) := gather 0 n.whole
  let (s, fractionLeft) := gather s n.fraction
  let exponent : Int :=
    wholeLeft.length - (n.fraction.length - fractionLeft.length : Nat) + n.exponent.getD 0
  ((Binary64.ofNat s).bind fun x => scale x exponent 3).map fun x =>
    if n.negative then x.neg else x

/-- Drops the zeros at the end of a list of digits. -/
def dropTrailingZeros (ds : List Digit) : List Digit := (ds.reverse.dropWhile (· == 0)).reverse

/-- How a double is written: positional with at least one decimal place from `1e-5` up to below `1e16`,
and by a power of ten otherwise. -/
def ofDouble (x : Binary64) : Json.Number :=
  if x.isZero then ⟨x.negative, [0], [0], none⟩
  else
    let s := x.shortest
    let all := digits s.digits
    let ds := dropTrailingZeros all
    let point : Int := all.length + s.exponent
    if -5 < point ∧ point ≤ 0 then
      ⟨x.negative, [0], List.replicate point.natAbs 0 ++ ds, none⟩
    else if 0 < point ∧ point ≤ 16 then
      let fraction := ds.drop point.toNat
      ⟨x.negative, ds.take point.toNat ++ List.replicate (point.toNat - ds.length) 0,
        if fraction.isEmpty then [0] else fraction, none⟩
    else ⟨x.negative, ds.take 1, ds.drop 1, some (point - 1)⟩

/-- The text of a number, with a sign on its exponent. -/
def text (n : Json.Number) : String :=
  let digitText (ds : List Digit) := String.ofList (ds.map Digit.char)
  (if n.negative then "-" else "") ++ digitText n.whole ++
    (if n.fraction.isEmpty then "" else "." ++ digitText n.fraction) ++
    (match n.exponent with
      | none => ""
      | some e => "e" ++ (if e < 0 then "-" else "+") ++ naturalText e.natAbs)

end TrafficShaping.Json.Number
