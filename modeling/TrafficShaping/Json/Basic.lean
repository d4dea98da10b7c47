import TrafficShaping.Number.Decimal
import TrafficShaping.Text.Utf8

/-!
# JSON values

A value is kept as it was written, up to spelling: members in order and with repetitions, numbers by their
digits, strings by the bytes and escapes between the quotes. Whoever reads a value decides what a
repetition means, which range a number has and whether a string has to be text, and what nobody reads is
held to the syntax alone.

`Literal.ofString` and `Literal.decode?` are the two directions between strings and texts.
-/

namespace TrafficShaping

open Number (Digit)

namespace Json

/-- A number as written. Without a fraction and an exponent it is an integer. -/
structure Number where
  negative : Bool
  whole : List Digit
  fraction : List Digit
  exponent : Option Int
deriving DecidableEq

/-- A part of a string: a byte that stands for itself, a one letter escape by the byte it stands for, or
an escape by code unit. -/
inductive Piece where
  | byte (b : UInt8)
  | short (b : UInt8)
  | unit (code : Nat)
deriving DecidableEq

/-- What stands between the quotes of a string. -/
abbrev Literal := List Piece

def isHighSurrogate (code : Nat) : Bool := 0xd800 ≤ code && code < 0xdc00
def isLowSurrogate (code : Nat) : Bool := 0xdc00 ≤ code && code < 0xe000

/-- The bytes that a literal stands for; none if a surrogate stands alone. -/
def Literal.bytes? : Literal → Option (List UInt8)
  | [] => some []
  | .byte b :: rest => (bytes? rest).map (b :: ·)
  | .short b :: rest => (bytes? rest).map (b :: ·)
  | .unit code :: rest =>
    if isLowSurrogate code then none
    else if isHighSurrogate code then
      match rest with
      | .unit low :: rest =>
        if isLowSurrogate low then
          (bytes? rest).map
            (String.utf8EncodeChar (Char.ofNat (0x10000 + (code - 0xd800) * 0x400 + (low - 0xdc00))) ++ ·)
        else none
      | _ => none
    else (bytes? rest).map (String.utf8EncodeChar (Char.ofNat code) ++ ·)

/-- The text that a literal stands for, if it stands for one. -/
def Literal.decode? (l : Literal) : Option String := l.bytes?.bind Text.Utf8.decode?

/-- How a character is written: quotes, backslashes and controls escaped, the rest as it is. -/
def Literal.ofChar (c : Char) : Literal :=
  let n := c.toNat
  if n = 0x22 ∨ n = 0x5c ∨ n = 8 ∨ n = 9 ∨ n = 10 ∨ n = 12 ∨ n = 13 then [.short (UInt8.ofNat n)]
  else if n < 0x20 then [.unit n]
  else (String.utf8EncodeChar c).map .byte

/-- How a text is written. -/
def Literal.ofString (s : String) : Literal := s.toList.flatMap ofChar

end Json

/-- A JSON value as written. -/
inductive Json where
  | null
  | bool (b : Bool)
  | number (n : Json.Number)
  | string (l : Json.Literal)
  | array (items : List Json)
  | object (members : List (Json.Literal × Json))

namespace Json

instance : Inhabited Json := ⟨.null⟩

/-- A string value. -/
def text (s : String) : Json := .string (Literal.ofString s)

/-- An object with these members in this order. -/
def ofFields (fields : List (String × Json)) : Json :=
  .object (fields.map fun f => (Literal.ofString f.1, f.2))

/-- An integer value. -/
def integer (i : Int) : Json :=
  .number ⟨decide (i < 0), TrafficShaping.Number.digits i.natAbs, [], none⟩

/-- A string value if there is one, and `null` otherwise. -/
def text? (s : Option String) : Json := s.elim .null text

end Json

end TrafficShaping
