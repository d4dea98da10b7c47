import TrafficShaping.Number.Binary64
import TrafficShaping.Number.Decimal

/-!
# Shortest decimals

A double is written with the fewest digits that read back as the same double, and of those with the ones
nearest to its value. Reading rounds to nearest, so a decimal reads back exactly when it lies in the
interval around the double that reaches half way to its neighbours, ends included when the mantissa is
even. For one digit, two digits and so on, the two decimals of that many digits around the value are
tried; seventeen digits always do.
-/

namespace TrafficShaping.Number

/-- A positive decimal number, `digits * 10 ^ exponent`. -/
structure Decimal where
  digits : Nat
  exponent : Int

namespace Shortest

/-- Compares `a / b * 10 ^ k` with a natural number by cross multiplication: the two sides. -/
def sides (a b : Nat) (k : Int) (n : Nat) : Nat × Nat :=
  if k < 0 then (a, n * b * Nat.pow 10 k.natAbs) else (a * Nat.pow 10 k.natAbs, n * b)

/-- The largest `k` with `10 ^ k ≤ num / den`, searched downwards from a bound. -/
def magnitude (num den : Nat) : Nat → Int → Int
  | 0, k => k
  | fuel + 1, k =>
    let (l, r) := sides num den (-k) 1
    if r ≤ l then k else magnitude num den fuel (k - 1)

/-- Around a double: the value and the ends of the interval that rounds to it, as numerators over one
denominator, and whether the ends belong to it. -/
structure Interval where
  low : Nat
  value : Nat
  high : Nat
  den : Nat
  closed : Bool

/-- The interval of a positive double. Just below a power of two the neighbours are half as far apart. -/
def interval (x : Binary64) : Interval :=
  let near := x.mantissa = Binary64.normal ∧ Binary64.minExponent < x.exponent
  let low := if near then 4 * x.mantissa - 1 else 4 * x.mantissa - 2
  let unit := if x.exponent < 0 then 1 else Nat.pow 2 x.exponent.natAbs
  let den := if x.exponent < 0 then 4 * Nat.pow 2 x.exponent.natAbs else 4
  ⟨low * unit, 4 * x.mantissa * unit, (4 * x.mantissa + 2) * unit, den, x.mantissa % 2 = 0⟩

/-- Whether `n * 10 ^ k` lies in an interval. -/
def Interval.contains (i : Interval) (n : Nat) (k : Int) : Bool :=
  let (l, l') := sides i.low i.den (-k) n
  let (h, h') := sides i.high i.den (-k) n
  if i.closed then l ≤ l' && h' ≤ h else l < l' && h' < h

/-- The decimal on the grid of multiples of `10 ^ k` that reads back, if there is one. Of two it is the
nearer to the value, and of two equally near the even one. -/
def Interval.onGrid? (i : Interval) (k : Int) : Option Nat :=
  let (v, d) := sides i.value i.den (-k) 1
  let below := v / d
  match i.contains below k, i.contains (below + 1) k with
  | true, true =>
    let r := v % d
    some (if 2 * r < d then below else if d < 2 * r then below + 1 else below + below % 2)
  | true, false => some below
  | false, true => some (below + 1)
  | false, false => none

/-- Tries the grids of one digit, two digits and so on. -/
def search (i : Interval) (top : Int) : List Nat → Decimal
  | [] => ⟨0, 0⟩
  | count :: more =>
    let k := top - count + 1
    match i.onGrid? k with
    | some n => ⟨n, k⟩
    | none => search i top more

end Shortest

/-- The shortest decimal of a positive double. -/
def Binary64.shortest (x : Binary64) : Decimal :=
  let i := Shortest.interval x
  let guess : Int := ((i.value.log2 : Int) - (i.den.log2 : Int)) * 30103 / 100000 + 2
  Shortest.search i (Shortest.magnitude i.value i.den 5 guess) ((List.range 17).map (· + 1))

end TrafficShaping.Number
