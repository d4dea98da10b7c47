/-!
# Digests

A digest of a text is a number of a fixed size, made from the text block by block. The text is brought to
whole blocks first: a one bit ends it, and its length in bits is the last thing in the last block. Each block
stirs a state, and the digest is the state after the last one.

The words of a state are bit vectors of a width, and all arithmetic on them is modulo that width. The numbers
that the two later functions stir in are digits of roots of primes, so they are computed here. Those of the
first one are digits of sines, which are listed.
-/

namespace TrafficShaping.Program

namespace Digest

/-! ## Bytes and words -/

/-- The number that bytes stand for, the most significant one first. -/
def numberOf (bytes : List UInt8) : Nat := bytes.foldl (fun n b => 256 * n + b.toNat) 0

/-- A number as so many bytes, the least significant one first. -/
def littleEndian (count n : Nat) : List UInt8 := (List.range count).map fun i => UInt8.ofNat (n / Nat.pow 256 i)

def bigEndian (count n : Nat) : List UInt8 := (littleEndian count n).reverse

/-- Parts of one size. -/
def parts {α : Type} (size : Nat) (items : List α) : List (List α) :=
  (List.range (items.length / size)).foldr (fun _ f rest => rest.take size :: f (rest.drop size)) (fun _ => []) items

/-- A text brought to whole blocks. -/
def padded (size : Nat) (writeLength : Nat → Nat → List UInt8) (bytes : List UInt8) : List UInt8 :=
  let used := bytes.length + 1 + size / 8
  bytes ++ 0x80 :: List.replicate ((size - used % size) % size) 0 ++ writeLength (size / 8) (8 * bytes.length)

/-- A word of a list; beyond the list there is only zero. -/
def word {w : Nat} (words : Array (BitVec w)) (i : Nat) : BitVec w := words[i]?.getD 0

/-- The words of a block. -/
def blockWords (w : Nat) (arrange : List UInt8 → List UInt8) (block : List UInt8) : Array (BitVec w) :=
  ((parts (w / 8) block).map fun bs => BitVec.ofNat w (numberOf (arrange bs))).toArray

/-! ## Roots -/

/-- The largest number whose power is not above a bound, found bit by bit. -/
def root (power bits bound : Nat) : Nat :=
  (List.range bits).reverse.foldl
    (fun r b => if Nat.pow (r + Nat.pow 2 b) power ≤ bound then r + Nat.pow 2 b else r) 0

def primes : List Nat := (List.range 410).filter fun n =>
  2 ≤ n && (List.range n).all fun d => d < 2 || n % d ≠ 0

/-- The first binary digits of the fractions of the roots of the first primes. -/
def rootDigits (w power count : Nat) : List (BitVec w) :=
  (primes.take count).map fun p => BitVec.ofNat w (root power (w + 8) (p * Nat.pow 2 (power * w)))

/-! ## The function of 128 bits -/

namespace Md5

/-- The first 32 binary digits of the sines of the numbers from one on. -/
def sines : Array (BitVec 32) := #[
  0xd76aa478, 0xe8c7b756, 0x242070db, 0xc1bdceee, 0xf57c0faf, 0x4787c62a, 0xa8304613, 0xfd469501,
  0x698098d8, 0x8b44f7af, 0xffff5bb1, 0x895cd7be, 0x6b901122, 0xfd987193, 0xa679438e, 0x49b40821,
  0xf61e2562, 0xc040b340, 0x265e5a51, 0xe9b6c7aa, 0xd62f105d, 0x02441453, 0xd8a1e681, 0xe7d3fbc8,
  0x21e1cde6, 0xc33707d6, 0xf4d50d87, 0x455a14ed, 0xa9e3e905, 0xfcefa3f8, 0x676f02d9, 0x8d2a4c8a,
  0xfffa3942, 0x8771f681, 0x6d9d6122, 0xfde5380c, 0xa4beea44, 0x4bdecfa9, 0xf6bb4b60, 0xbebfbc70,
  0x289b7ec6, 0xeaa127fa, 0xd4ef3085, 0x04881d05, 0xd9d4d039, 0xe6db99e5, 0x1fa27cf8, 0xc4ac5665,
  0xf4292244, 0x432aff97, 0xab9423a7, 0xfc93a039, 0x655b59c3, 0x8f0ccc92, 0xffeff47d, 0x85845dd1,
  0x6fa87e4f, 0xfe2ce6e0, 0xa3014314, 0x4e0811a1, 0xf7537e82, 0xbd3af235, 0x2ad7d2bb, 0xeb86d391]

def rotations : Array Nat := #[7, 12, 17, 22, 5, 9, 14, 20, 4, 11, 16, 23, 6, 10, 15, 21]

/-- How the state is mixed in a round, and which word of the block goes in. -/
def mixed (i : Nat) (b c d : BitVec 32) : BitVec 32 × Nat :=
  if i < 16 then ((b &&& c) ||| (~~~b &&& d), i)
  else if i < 32 then ((d &&& b) ||| (~~~d &&& c), (5 * i + 1) % 16)
  else if i < 48 then (b ^^^ c ^^^ d, (3 * i + 5) % 16)
  else (c ^^^ (b ||| ~~~d), 7 * i % 16)

def stir (s : List (BitVec 32)) (block : List UInt8) : List (BitVec 32) :=
  let m := blockWords 32 List.reverse block
  match s with
  | [a, b, c, d] =>
    let round (s : BitVec 32 × BitVec 32 × BitVec 32 × BitVec 32) (i : Nat) :=
      let (a, b, c, d) := s
      let (f, k) := mixed i b c d
      let turned := (a + f + word sines i + word m k).rotateLeft (rotations[i / 16 * 4 + i % 4]?.getD 0)
      (d, b + turned, b, c)
    let (a', b', c', d') := (List.range 64).foldl round (a, b, c, d)
    [a + a', b + b', c + c', d + d']
  | s => s

def digest (bytes : List UInt8) : List UInt8 :=
  ((parts 64 (padded 64 littleEndian bytes)).foldl stir [0x67452301, 0xefcdab89, 0x98badcfe, 0x10325476]).flatMap
    fun w => littleEndian 4 w.toNat

end Md5

/-! ## The function of 160 bits -/

namespace Sha1

/-- The words of a block and those made from them. -/
def schedule (block : List UInt8) : Array (BitVec 32) :=
  (List.range 64).foldl
    (fun w i => w.push ((word w (i + 13) ^^^ word w (i + 8) ^^^ word w (i + 2) ^^^ word w i).rotateLeft 1))
    (blockWords 32 id block)

/-- How the state is mixed in a round, and the number that goes in. -/
def mixed (i : Nat) (b c d : BitVec 32) : BitVec 32 × BitVec 32 :=
  if i < 20 then ((b &&& c) ||| (~~~b &&& d), 0x5a827999)
  else if i < 40 then (b ^^^ c ^^^ d, 0x6ed9eba1)
  else if i < 60 then ((b &&& c) ||| (b &&& d) ||| (c &&& d), 0x8f1bbcdc)
  else (b ^^^ c ^^^ d, 0xca62c1d6)

def stir (s : List (BitVec 32)) (block : List UInt8) : List (BitVec 32) :=
  let w := schedule block
  match s with
  | [a, b, c, d, e] =>
    let round (s : BitVec 32 × BitVec 32 × BitVec 32 × BitVec 32 × BitVec 32) (i : Nat) :=
      let (a, b, c, d, e) := s
      let (f, k) := mixed i b c d
      (a.rotateLeft 5 + f + e + k + word w i, a, b.rotateLeft 30, c, d)
    let (a', b', c', d', e') := (List.range 80).foldl round (a, b, c, d, e)
    [a + a', b + b', c + c', d + d', e + e']
  | s => s

def digest (bytes : List UInt8) : List UInt8 :=
  ((parts 64 (padded 64 bigEndian bytes)).foldl stir
    [0x67452301, 0xefcdab89, 0x98badcfe, 0x10325476, 0xc3d2e1f0]).flatMap fun w => bigEndian 4 w.toNat

end Sha1

/-! ## The family of functions of 224 to 512 bits -/

namespace Sha2

/-- What tells the two widths apart: how words are turned, and how many rounds there are. The last number of
each small sum is by how much the word is shifted. -/
structure Variant (w : Nat) where
  big0 : Nat × Nat × Nat
  big1 : Nat × Nat × Nat
  small0 : Nat × Nat × Nat
  small1 : Nat × Nat × Nat
  constants : Array (BitVec w)

def narrow : Variant 32 where
  big0 := (2, 13, 22)
  big1 := (6, 11, 25)
  small0 := (7, 18, 3)
  small1 := (17, 19, 10)
  constants := (rootDigits 32 3 64).toArray

def wide : Variant 64 where
  big0 := (28, 34, 39)
  big1 := (14, 18, 41)
  small0 := (1, 8, 7)
  small1 := (19, 61, 6)
  constants := (rootDigits 64 3 80).toArray

variable {w : Nat}

def turned (r : Nat × Nat × Nat) (x : BitVec w) : BitVec w :=
  x.rotateRight r.1 ^^^ x.rotateRight r.2.1 ^^^ x.rotateRight r.2.2

def shifted (r : Nat × Nat × Nat) (x : BitVec w) : BitVec w :=
  x.rotateRight r.1 ^^^ x.rotateRight r.2.1 ^^^ (x >>> r.2.2)

/-- The words of a block and those made from them. -/
def schedule (v : Variant w) (block : List UInt8) : Array (BitVec w) :=
  (List.range (v.constants.size - 16)).foldl
    (fun m i =>
      m.push (word m i + shifted v.small0 (word m (i + 1)) + word m (i + 9) + shifted v.small1 (word m (i + 14))))
    (blockWords w id block)

/-- A round: two words are made from the state, and the others move on. -/
def round (v : Variant w) (m : Array (BitVec w)) (s : List (BitVec w)) (i : Nat) : List (BitVec w) :=
  match s with
  | [a, b, c, d, e, f, g, h] =>
    let t := h + turned v.big1 e + ((e &&& f) ^^^ (~~~e &&& g)) + word v.constants i + word m i
    [t + turned v.big0 a + ((a &&& b) ^^^ (a &&& c) ^^^ (b &&& c)), a, b, c, d + t, e, f, g]
  | s => s

def stir (v : Variant w) (s : List (BitVec w)) (block : List UInt8) : List (BitVec w) :=
  let m := schedule v block
  List.zipWith (· + ·) s ((List.range v.constants.size).foldl (round v m) s)

/-- The first bytes of the state after all blocks. -/
def digest (v : Variant w) (start : List (BitVec w)) (size : Nat) (bytes : List UInt8) : List UInt8 :=
  (((parts (2 * w) (padded (2 * w) bigEndian bytes)).foldl (stir v) start).flatMap fun x =>
    bigEndian (w / 8) x.toNat).take size

def sha256 : List UInt8 → List UInt8 := digest narrow (rootDigits 32 2 8) 32

def sha512 : List UInt8 → List UInt8 := digest wide (rootDigits 64 2 8) 64

def sha384 : List UInt8 → List UInt8 := digest wide ((rootDigits 64 2 16).drop 8) 48

def sha224 : List UInt8 → List UInt8 :=
  digest narrow (((rootDigits 64 2 16).drop 8).map fun x => x.setWidth 32) 28

end Sha2

/-! ## Checksums -/

/-- The remainder of bytes by the polynomial of cyclic redundancy checks. -/
def remainder (bytes : List UInt8) (start : BitVec 32) : BitVec 32 :=
  bytes.foldl
    (fun r b => (List.range 8).foldl
      (fun r _ => if r.getLsbD 31 then (r <<< 1) ^^^ 0x04c11db7 else r <<< 1) (r ^^^ (BitVec.ofNat 32 b.toNat <<< 24)))
    start

/-- A number as bytes without zeros at the end, the least significant one first. -/
def lengthBytes (n : Nat) : List UInt8 :=
  ((littleEndian 8 n).reverse.dropWhile (· = 0)).reverse

/-- The check of a text and of its length. -/
def crc (bytes : List UInt8) : Nat := (~~~(remainder (lengthBytes bytes.length) (remainder bytes 0))).toNat

/-- A sum of 16 bits that is turned at each byte. -/
def turnedSum (bytes : List UInt8) : Nat :=
  (bytes.foldl (fun (s : BitVec 16) b => s.rotateRight 1 + BitVec.ofNat 16 b.toNat) 0).toNat

/-- A sum of all bytes, folded to 16 bits. -/
def foldedSum (bytes : List UInt8) : Nat :=
  let n := bytes.foldl (fun n b => n + b.toNat) 0 % Nat.pow 2 32
  let n := n % 65536 + n / 65536
  n % 65536 + n / 65536

end Digest

end TrafficShaping.Program
