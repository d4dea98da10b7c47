/-!
# Hexadecimal digits

Formats that write a character by its number use hexadecimal digits, and read digits of either case.
-/

namespace TrafficShaping.Text

/-- The value of a hexadecimal digit of either case. -/
def hexValue? (b : UInt8) : Option Nat :=
  let n := b.toNat
  if 48 ≤ n ∧ n ≤ 57 then some (n - 48)
  else if 97 ≤ n ∧ n ≤ 102 then some (n - 87)
  else if 65 ≤ n ∧ n ≤ 70 then some (n - 55)
  else none

end TrafficShaping.Text
