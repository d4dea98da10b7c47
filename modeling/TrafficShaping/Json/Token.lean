import TrafficShaping.Json.Basic
import TrafficShaping.Text.Hex

/-!
# JSON tokens

Reading a JSON text takes two steps, and this is the first: the bytes become tokens. The lexer is a
machine that looks at one byte at a time and never back. Blanks between tokens leave no trace, so two
texts with the same tokens are the same JSON in two layouts.

A number ends where a byte cannot continue it. No two values stand next to each other in JSON, so whatever
follows too closely is refused in the second step.
-/

namespace TrafficShaping.Json

open TrafficShaping.Number (Digit digits)

inductive Token where
  | openBracket
  | closeBracket
  | openBrace
  | closeBrace
  | colon
  | comma
  | null
  | bool (b : Bool)
  | number (n : Number)
  | string (l : Literal)
deriving DecidableEq

namespace Token

/-- The digit that a byte stands for. -/
def digitOf? (b : UInt8) : Option Digit :=
  if h : 48 ≤ b.toNat ∧ b.toNat ≤ 57 then some ⟨b.toNat - 48, by omega⟩ else none

/-- The byte that a one letter escape stands for. -/
def escaped? (letter : UInt8) : Option UInt8 :=
  match letter.toNat with
  | 0x22 => some 0x22
  | 0x5c => some 0x5c
  | 0x2f => some 0x2f
  | 0x62 => some 0x08
  | 0x66 => some 0x0c
  | 0x6e => some 0x0a
  | 0x72 => some 0x0d
  | 0x74 => some 0x09
  | _ => none

/-! ## Numbers -/

/-- Where the lexer is inside a number, named by what it has just read. -/
inductive Phase where
  | minus
  | zero
  | whole
  | point
  | fraction
  | mark
  | sign
  | exponent
deriving DecidableEq

/-- A number of which some bytes have been read; digits are kept last first. -/
structure Digits where
  phase : Phase
  negative : Bool := false
  whole : List Digit := []
  fraction : List Digit := []
  shrinks : Bool := false
  exponent : Nat := 0

/-- The number, if it may end here. -/
def Digits.finish? (d : Digits) : Option Number :=
  match d.phase with
  | .zero | .whole | .fraction => some ⟨d.negative, d.whole.reverse, d.fraction.reverse, none⟩
  | .exponent =>
    some ⟨d.negative, d.whole.reverse, d.fraction.reverse,
      some (if d.shrinks then -d.exponent else d.exponent)⟩
  | .minus | .point | .mark | .sign => none

/-- The first byte of a number. -/
def Digits.start? (b : UInt8) : Option Digits :=
  if b = 0x2d then some { phase := .minus, negative := true }
  else (digitOf? b).map fun d => { phase := if d.val = 0 then .zero else .whole, whole := [d] }

/-- A later byte of a number; none if it does not continue it. -/
def Digits.next? (d : Digits) (b : UInt8) : Option Digits :=
  let isMark := b = 0x65 ∨ b = 0x45
  match d.phase, digitOf? b with
  | .minus, some x => some { d with phase := if x.val = 0 then .zero else .whole, whole := [x] }
  | .whole, some x => some { d with whole := x :: d.whole }
  | .point, some x | .fraction, some x =>
    some { d with phase := .fraction, fraction := x :: d.fraction }
  | .mark, some x | .sign, some x | .exponent, some x =>
    some { d with phase := .exponent, exponent := 10 * d.exponent + x.val }
  | .zero, none | .whole, none =>
    if b = 0x2e then some { d with phase := .point }
    else if isMark then some { d with phase := .mark }
    else none
  | .fraction, none => if isMark then some { d with phase := .mark } else none
  | .mark, none =>
    if b = 0x2b then some { d with phase := .sign }
    else if b = 0x2d then some { d with phase := .sign, shrinks := true }
    else none
  | _, _ => none

/-! ## The machine -/

/-- What the lexer is in the middle of; pieces are kept last first. -/
inductive State where
  | between
  | literal (pieces : List Piece)
  | escape (pieces : List Piece)
  | unit (pieces : List Piece) (missing : Nat) (code : Nat)
  | word (rest : List UInt8) (token : Token)
  | number (d : Digits)

/-- A byte outside of any token: the state after it and the token it is, if it is one by itself. -/
def between (b : UInt8) : Option (State × Option Token) :=
  match b.toNat with
  | 0x20 | 0x09 | 0x0a | 0x0d => some (.between, none)
  | 0x5b => some (.between, some .openBracket)
  | 0x5d => some (.between, some .closeBracket)
  | 0x7b => some (.between, some .openBrace)
  | 0x7d => some (.between, some .closeBrace)
  | 0x3a => some (.between, some .colon)
  | 0x2c => some (.between, some .comma)
  | 0x22 => some (.literal [], none)
  | 0x6e => some (.word [0x75, 0x6c, 0x6c] .null, none)
  | 0x74 => some (.word [0x72, 0x75, 0x65] (.bool true), none)
  | 0x66 => some (.word [0x61, 0x6c, 0x73, 0x65] (.bool false), none)
  | _ => (Digits.start? b).map fun d => (.number d, none)

/-- One byte of a text: the state after it and the tokens that end here, last first. -/
def step : State → UInt8 → Option (State × List Token)
  | .between, b => (between b).map fun (s, t) => (s, t.toList)
  | .literal ps, b =>
    if b = 0x22 then some (.between, [.string ps.reverse])
    else if b = 0x5c then some (.escape ps, [])
    else if b < 0x20 then none
    else some (.literal (.byte b :: ps), [])
  | .escape ps, b =>
    if b = 0x75 then some (.unit ps 3 0, [])
    else (escaped? b).map fun e => (.literal (.short e :: ps), [])
  | .unit ps missing code, b =>
    (Text.hexValue? b).map fun h =>
      match missing with
      | 0 => (.literal (.unit (16 * code + h) :: ps), [])
      | m + 1 => (.unit ps m (16 * code + h), [])
  | .word rest t, b =>
    match rest with
    | [] => none
    | [last] => if b = last then some (.between, [t]) else none
    | r :: rest => if b = r then some (.word rest t, []) else none
  | .number d, b =>
    match d.next? b with
    | some d => some (.number d, [])
    | none => d.finish?.bind fun n => (between b).map fun (s, t) => (s, t.toList ++ [.number n])

/-- Reads bytes, with the tokens so far last first. -/
def scan : State → List Token → List UInt8 → Option (State × List Token)
  | s, out, [] => some (s, out)
  | s, out, b :: bs =>
    match step s b with
    | some (s, ts) => scan s (ts ++ out) bs
    | none => none

/-- The tokens of a text that ends in a state; none in the middle of a token. -/
def finish? : State → List Token → Option (List Token)
  | .between, out => some out.reverse
  | .number d, out => d.finish?.map fun n => (.number n :: out).reverse
  | _, _ => none

end Token

/-- The tokens of a text; none if it has a byte that no token holds. -/
def tokens? (bytes : List UInt8) : Option (List Token) :=
  (Token.scan .between [] bytes).bind fun (s, out) => Token.finish? s out

/-! ## Writing -/

def digitBytes (ds : List Digit) : List UInt8 := ds.map fun d => UInt8.ofNat (48 + d.val)

/-- The bytes of a number, with a sign on its exponent. -/
def Number.bytes (n : Number) : List UInt8 :=
  (if n.negative then [0x2d] else []) ++ digitBytes n.whole ++
    (if n.fraction.isEmpty then [] else 0x2e :: digitBytes n.fraction) ++
    (match n.exponent with
      | none => []
      | some e => 0x65 :: (if e < 0 then 0x2d else 0x2b) :: digitBytes (digits e.natAbs))

/-- The letter of a one letter escape. -/
def escapeLetter (b : UInt8) : UInt8 :=
  match b.toNat with
  | 0x08 => 0x62
  | 0x0c => 0x66
  | 0x0a => 0x6e
  | 0x0d => 0x72
  | 0x09 => 0x74
  | _ => b

/-- A hexadecimal digit, lower case. -/
def hexByte (n : Nat) : UInt8 := UInt8.ofNat (if n < 10 then 48 + n else 87 + n)

def Piece.bytes : Piece → List UInt8
  | .byte b => [b]
  | .short b => [0x5c, escapeLetter b]
  | .unit c =>
    [0x5c, 0x75, hexByte (c / 4096 % 16), hexByte (c / 256 % 16), hexByte (c / 16 % 16),
      hexByte (c % 16)]

def Token.bytes : Token → List UInt8
  | .openBracket => [0x5b]
  | .closeBracket => [0x5d]
  | .openBrace => [0x7b]
  | .closeBrace => [0x7d]
  | .colon => [0x3a]
  | .comma => [0x2c]
  | .null => [0x6e, 0x75, 0x6c, 0x6c]
  | .bool true => [0x74, 0x72, 0x75, 0x65]
  | .bool false => [0x66, 0x61, 0x6c, 0x73, 0x65]
  | .number n => n.bytes
  | .string l => 0x22 :: l.flatMap Piece.bytes ++ [0x22]

end TrafficShaping.Json
