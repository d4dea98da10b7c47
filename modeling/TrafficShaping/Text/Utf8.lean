/-!
# UTF-8

Bytes come from links, from programs and from the network, and none of them is bound to be UTF-8. The
reader is a machine over bytes with one state, the sequence it is in the middle of. A sequence is given
up at the first byte that cannot continue it, and that byte is read again from the start, so what is
given up is always a longest prefix of something valid.

`units` is the machine's whole account of its input: a character, or `none` where a sequence was given up.
Strict reading asks that nothing was, lossy reading puts U+FFFD in its place.
-/

namespace TrafficShaping.Text.Utf8

/-- A sequence of which some bytes have been read: the bits so far, the range the next byte has to lie in,
and how many bytes follow that one. -/
structure Pending where
  bits : Nat
  low : Nat
  high : Nat
  more : Nat

/-- What one byte does to a sequence. -/
inductive Scan where
  | complete (c : Char)
  | pending (p : Pending)
  | refused

/-- The first byte of a sequence. The ranges for the second byte leave out overlong forms, surrogates and
everything past U+10FFFF. -/
def start (byte : UInt8) : Scan :=
  let b := byte.toNat
  if b < 0x80 then .complete (Char.ofNat b)
  else if b < 0xc2 then .refused
  else if b < 0xe0 then .pending ⟨b - 0xc0, 0x80, 0xbf, 0⟩
  else if b == 0xe0 then .pending ⟨0, 0xa0, 0xbf, 1⟩
  else if b == 0xed then .pending ⟨0xd, 0x80, 0x9f, 1⟩
  else if b < 0xf0 then .pending ⟨b - 0xe0, 0x80, 0xbf, 1⟩
  else if b == 0xf0 then .pending ⟨0, 0x90, 0xbf, 2⟩
  else if b < 0xf4 then .pending ⟨b - 0xf0, 0x80, 0xbf, 2⟩
  else if b == 0xf4 then .pending ⟨4, 0x80, 0x8f, 2⟩
  else .refused

/-- A later byte of a sequence. -/
def Pending.resume (p : Pending) (byte : UInt8) : Scan :=
  let b := byte.toNat
  if p.low ≤ b && b ≤ p.high then
    let bits := p.bits * 64 + b % 64
    match p.more with
    | 0 => .complete (Char.ofNat bits)
    | more + 1 => .pending ⟨bits, 0x80, 0xbf, more⟩
  else .refused

/-- The reader between two bytes: what it has read, last unit first, and the sequence it is in. -/
structure Reader where
  units : List (Option Char) := []
  pending : Option Pending := none

/-- Reads a byte that begins a sequence. -/
def Reader.begin (units : List (Option Char)) (byte : UInt8) : Reader :=
  match start byte with
  | .complete c => ⟨some c :: units, none⟩
  | .pending p => ⟨units, some p⟩
  | .refused => ⟨none :: units, none⟩

def Reader.read (r : Reader) (byte : UInt8) : Reader :=
  match r.pending with
  | none => begin r.units byte
  | some p =>
    match p.resume byte with
    | .complete c => ⟨some c :: r.units, none⟩
    | .pending p => ⟨r.units, some p⟩
    | .refused => begin (none :: r.units) byte

/-- The units of an input that ends here; a sequence cut short is given up. -/
def Reader.finish (r : Reader) : List (Option Char) :=
  match r.pending with
  | none => r.units.reverse
  | some _ => (none :: r.units).reverse

/-- The characters of a byte sequence, with `none` for each longest prefix of a sequence that had to be
given up. -/
def units (bytes : List UInt8) : List (Option Char) := (bytes.foldl Reader.read {}).finish

/-- U+FFFD, the replacement character. -/
def replacement : Char := Char.ofNat 0xfffd

/-- Reads bytes as text, with U+FFFD for what is not UTF-8. -/
def decodeLossy (bytes : List UInt8) : String :=
  String.ofList ((units bytes).map (·.getD replacement))

/-- Reads bytes as text; `none` unless they are UTF-8 throughout. -/
def decode? (bytes : List UInt8) : Option String :=
  ((units bytes).mapM id).map String.ofList

def encodeChars (cs : List Char) : List UInt8 := cs.flatMap String.utf8EncodeChar

/-- The bytes of a text. -/
def encode (s : String) : List UInt8 := encodeChars s.toList

end TrafficShaping.Text.Utf8
