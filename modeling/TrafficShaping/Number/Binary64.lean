/-!
# Double precision numbers

The finite numbers of IEEE 754's binary64, as exact values: a sign, a mantissa and a power of two. An
operation is the exact operation followed by one rounding to nearest, ties to even, so all of them come
from `round`, which rounds a quotient of naturals scaled by a power of two. There is no infinity: what
would round past the largest finite value has no result.
-/

namespace TrafficShaping.Number

/-- The number `± mantissa * 2 ^ exponent`. The mantissa has 53 binary digits, or fewer when the exponent
is the least one. -/
structure Binary64 where
  negative : Bool
  mantissa : Nat
  exponent : Int
deriving DecidableEq

namespace Binary64

def minExponent : Int := -1074
def maxExponent : Int := 971

/-- The least mantissa of full precision. -/
def normal : Nat := Nat.pow 2 52

def zero (negative : Bool) : Binary64 := ⟨negative, 0, minExponent⟩

def isZero (x : Binary64) : Bool := x.mantissa == 0

instance : Inhabited Binary64 := ⟨zero false⟩

/-- The integer nearest to a quotient; of two equally near ones the even one. -/
def roundDiv (num den : Nat) : Nat :=
  let q := num / den
  let r := num % den
  if 2 * r < den then q else if den < 2 * r then q + 1 else q + q % 2

/-- The quotient `num / den * 2 ^ scale` as a quotient of naturals. -/
def scaled (num den : Nat) (scale : Int) : Nat × Nat :=
  if scale < 0 then (num, den * Nat.pow 2 scale.natAbs) else (num * Nat.pow 2 scale.natAbs, den)

/-- The exponent at which a positive quotient has a mantissa of full precision, or the least one. -/
def exponentOf (num den : Nat) (scale : Int) : Int :=
  let guess := scale + (num.log2 : Int) - (den.log2 : Int) - 52
  let (n, d) := scaled num den (scale - guess)
  max minExponent (if n < normal * d then guess - 1 else guess)

/-- The double nearest to `± num / den * 2 ^ scale`; of two equally near ones the one with the even
mantissa. None if that is past the largest finite double. -/
def round (negative : Bool) (num den : Nat) (scale : Int) : Option Binary64 :=
  if num = 0 then some (zero negative)
  else
    let e := exponentOf num den scale
    let (n, d) := scaled num den (scale - e)
    let m := roundDiv n d
    let (m, e) := if m = 2 * normal then (normal, e + 1) else (m, e)
    if maxExponent < e then none else some ⟨negative, m, e⟩

def ofNat (n : Nat) : Option Binary64 := round false n 1 0

def neg (x : Binary64) : Binary64 := { x with negative := !x.negative }

def mul? (x y : Binary64) : Option Binary64 :=
  round (x.negative != y.negative) (x.mantissa * y.mantissa) 1 (x.exponent + y.exponent)

/-- Division by a number that is not zero. -/
def div? (x y : Binary64) : Option Binary64 :=
  round (x.negative != y.negative) x.mantissa y.mantissa (x.exponent - y.exponent)

/-- The double nearest to a power of ten. -/
def powerOfTen (k : Nat) : Option Binary64 := ofNat (Nat.pow 10 k)

end Binary64

end TrafficShaping.Number
