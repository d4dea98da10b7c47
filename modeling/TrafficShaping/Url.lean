import TrafficShaping.Text.Blank
import TrafficShaping.Text.Hex
import TrafficShaping.Text.Utf8

/-!
# References to what a server has

A reference is a path, and after it a query and a fragment if there are any. It may be written in more ways
than one: bytes may be escaped, a segment of a path may mean the place that it stands in or the place above.
`Reference.ofText` is the form that is sent to a server. It keeps every escape as it is written and adds
those that have to be there, follows the segments that name no place, and leaves the fragment out.

`Url.unescape` takes escapes out again.
-/

namespace TrafficShaping

namespace Url

/-! ## Escapes -/

/-- Whether a byte is no printable ASCII character, or a blank. -/
def isUnwritable (b : UInt8) : Bool := b.toNat ≤ 0x20 || 0x7f ≤ b.toNat

/-- Whether a byte of a query has to be escaped. -/
def isEscapedInQuery (b : UInt8) : Bool :=
  isUnwritable b || [0x22, 0x23, 0x3c, 0x3e].contains b.toNat

/-- Whether a byte of a path has to be escaped. -/
def isEscapedInPath (b : UInt8) : Bool :=
  isEscapedInQuery b || [0x3f, 0x60, 0x7b, 0x7d].contains b.toNat

/-- A hexadecimal digit, upper case. -/
def hexDigit (n : Nat) : Char := (Nat.digitChar n).toUpper

/-- How a byte is written, escaped or not. -/
def writeByte (escaped : UInt8 → Bool) (b : UInt8) : List Char :=
  if escaped b then ['%', hexDigit (b.toNat / 16), hexDigit (b.toNat % 16)] else [Char.ofNat b.toNat]

/-- Escapes the bytes of a text that have to be. -/
def escape (escaped : UInt8 → Bool) (s : String) : String :=
  String.ofList ((Text.Utf8.encode s).flatMap (writeByte escaped))

/-- Bytes with their escapes taken out. A percent sign that begins no escape stands for itself. -/
def unescapeBytes : List UInt8 → List UInt8
  | [] => []
  | [a] => [a]
  | [a, b] => [a, b]
  | a :: b :: c :: rest =>
    match a.toNat, Text.hexValue? b, Text.hexValue? c with
    | 0x25, some high, some low => UInt8.ofNat (16 * high + low) :: unescapeBytes rest
    | _, _, _ => a :: unescapeBytes (b :: c :: rest)

/-- A text with its escapes taken out. -/
def unescape (s : String) : String := Text.Utf8.decodeLossy (unescapeBytes (Text.Utf8.encode s))

/-! ## Paths -/

/-- Whether a segment means the place that it stands in. -/
def isHere (segment : String) : Bool := [".", "%2e"].contains segment.toLower

/-- Whether a segment means the place above. -/
def isAbove (segment : String) : Bool := ["..", ".%2e", "%2e.", "%2e%2e"].contains segment.toLower

/-- Whether a segment names a drive, above which there is nothing. -/
def isDrive (segment : String) : Bool :=
  match segment.toList with
  | [letter, c] => letter.isAlpha && (c == ':' || c == '|')
  | letter :: c :: '\\' :: _ => letter.isAlpha && (c == ':' || c == '|')
  | _ => false

/-- Follows a segment from a place, which is given by its names, innermost first. -/
def follow (place : List String) (segment : String) : List String :=
  if isHere segment then place
  else if isAbove segment then
    match place with
    | [] => []
    | name :: above => if isDrive name then place else above
  else segment :: place

/-- Where a path leads; a path that ends in a place rather than in a name ends in an empty one. -/
def resolve (segments : List String) : List String :=
  let place := segments.dropLast.foldl follow []
  let last := segments.getLast?.getD ""
  if isHere last || isAbove last then ("" :: follow place last).reverse else (last :: place).reverse

/-! ## Queries -/

/-- A name or value in a query, where a plus sign stands for a blank. -/
def unescapeField (s : List Char) : String :=
  unescape (String.ofList (s.map fun c => if c = '+' then ' ' else c))

/-- The pairs of a query. -/
def pairs (query : String) : List (String × String) :=
  ((Text.pieces (· == '&') query.toList).filter (!·.isEmpty)).map fun p =>
    (unescapeField (p.takeWhile (· ≠ '=')), unescapeField ((p.dropWhile (· ≠ '=')).drop 1))

end Url

/-- A path on a server, and a query. -/
structure Reference where
  path : String
  query : Option String := none
deriving DecidableEq

/-- Reads a reference whose path starts with a slash. Line breaks and tabs in it count for nothing. -/
def Reference.ofText (s : String) : Reference :=
  let cs := s.toList.filter fun c => c ≠ '\t' && c ≠ '\n' && c ≠ '\r'
  let (path, rest) := cs.span fun c => c ≠ '?' && c ≠ '#'
  let segments := (Text.pieces (· == '/') path).drop 1
  { path := "/" ++ "/".intercalate
      (Url.resolve (segments.map fun p => Url.escape Url.isEscapedInPath (String.ofList p)))
    query := match rest with
      | '?' :: rest =>
        some (Url.escape Url.isEscapedInQuery (String.ofList (rest.takeWhile (· ≠ '#'))))
      | _ => none }

end TrafficShaping
