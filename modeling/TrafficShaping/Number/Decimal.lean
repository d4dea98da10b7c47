/-!
# Decimal digits

Numbers are written and read in base ten in several formats. They share the digits: `digits` writes a
number without leading zeros, `value` reads any list of digits, and `value_digits` says that reading
undoes writing.
-/

namespace TrafficShaping.Number

abbrev Digit := Fin 10

def Digit.char (d : Digit) : Char := Char.ofNat (48 + d.val)

/-- The digit a character stands for; only the ASCII digits stand for one. -/
def digit? (c : Char) : Option Digit :=
  if h : 48 ≤ c.toNat ∧ c.toNat ≤ 57 then some ⟨c.toNat - 48, by omega⟩ else none

/-- The number that digits stand for, most significant first. -/
def value (ds : List Digit) : Nat := ds.foldl (fun n d => 10 * n + d.val) 0

/-- The digits of a number, without leading zeros; zero has one digit. -/
def digits (n : Nat) : List Digit :=
  if h : n < 10 then [⟨n, h⟩]
  else digits (n / 10) ++ [⟨n % 10, Nat.mod_lt _ (by decide)⟩]

theorem value_append_singleton (ds : List Digit) (d : Digit) :
    value (ds ++ [d]) = 10 * value ds + d.val := by
  simp [value]

theorem value_digits (n : Nat) : value (digits n) = n := by
  induction n using Nat.strongRecOn with
  | ind n ih =>
    rw [digits]
    split
    · simp [value]
    · next h =>
      rw [value_append_singleton, ih _ (by omega)]
      simp only
      omega

theorem digits_ne_nil (n : Nat) : digits n ≠ [] := by
  rw [digits]
  split <;> simp

/-- The text of a number. -/
def naturalText (n : Nat) : String := String.ofList ((digits n).map Digit.char)

def integerText (i : Int) : String :=
  if i < 0 then "-" ++ naturalText i.natAbs else naturalText i.natAbs

/-- A number written with at least `width` digits. -/
def paddedText (width n : Nat) : String :=
  let ds := (digits n).map Digit.char
  String.ofList (List.replicate (width - ds.length) '0' ++ ds)

/-- Reads digits to the end of the text. There has to be one. -/
def natural? (cs : List Char) : Option Nat :=
  if cs.isEmpty then none else (cs.mapM digit?).map value

end TrafficShaping.Number
