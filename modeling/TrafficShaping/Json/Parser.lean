import TrafficShaping.Json.Token

/-!
# Reading and writing JSON

The second step of reading turns tokens into a value. It walks the tokens once and keeps what is still
open on a stack, so nesting costs no recursion and has no limit. `tokens` lists the tokens of a value,
and writing a value compactly is writing these one after the other.
-/

namespace TrafficShaping.Json

/-- An array or object that is still open, with what it holds so far, last first. `member` has a key whose
value has not been read. -/
inductive Frame where
  | array (items : List Json)
  | object (members : List (Literal × Json))
  | member (members : List (Literal × Json)) (key : Literal)

/-- What may come next: a value, a value or the end of an array, a key or the end of an object, a key, the
colon after a key, or, after a complete value, whatever the innermost open frame wants. -/
inductive Awaiting where
  | value
  | firstItem
  | firstKey
  | key
  | colon
  | after (j : Json)

/-- A token where a value has to start. -/
def startValue (stack : List Frame) : Token → Option (Awaiting × List Frame)
  | .null => some (.after .null, stack)
  | .bool b => some (.after (.bool b), stack)
  | .number n => some (.after (.number n), stack)
  | .string l => some (.after (.string l), stack)
  | .openBracket => some (.firstItem, .array [] :: stack)
  | .openBrace => some (.firstKey, .object [] :: stack)
  | _ => none

/-- What a token does. -/
def advance : Awaiting → List Frame → Token → Option (Awaiting × List Frame)
  | .value, stack, t => startValue stack t
  | .firstItem, .array _ :: stack, .closeBracket => some (.after (.array []), stack)
  | .firstItem, stack, t => startValue stack t
  | .firstKey, .object _ :: stack, .closeBrace => some (.after (.object []), stack)
  | .firstKey, .object members :: stack, .string key => some (.colon, .member members key :: stack)
  | .key, .object members :: stack, .string key => some (.colon, .member members key :: stack)
  | .colon, stack, .colon => some (.value, stack)
  | .after j, .array items :: stack, .comma => some (.value, .array (j :: items) :: stack)
  | .after j, .array items :: stack, .closeBracket =>
    some (.after (.array (j :: items).reverse), stack)
  | .after j, .member members key :: stack, .comma =>
    some (.key, .object ((key, j) :: members) :: stack)
  | .after j, .member members key :: stack, .closeBrace =>
    some (.after (.object ((key, j) :: members).reverse), stack)
  | _, _, _ => none

/-- Reads tokens. -/
def walk : Awaiting → List Frame → List Token → Option (Awaiting × List Frame)
  | a, stack, [] => some (a, stack)
  | a, stack, t :: ts =>
    match advance a stack t with
    | some (a, stack) => walk a stack ts
    | none => none

/-- The value that is complete once nothing is open. -/
def complete? : Awaiting → List Frame → Option Json
  | .after j, [] => some j
  | _, _ => none

/-- The value that tokens make up. -/
def ofTokens? (ts : List Token) : Option Json :=
  (walk .value [] ts).bind fun (a, stack) => complete? a stack

/-- Reads a JSON text. -/
def parse? (bytes : List UInt8) : Option Json := (tokens? bytes).bind ofTokens?

mutual

/-- The tokens of a value. -/
def tokens : Json → List Token
  | .null => [.null]
  | .bool b => [.bool b]
  | .number n => [.number n]
  | .string l => [.string l]
  | .array items => .openBracket :: itemTokens items ++ [.closeBracket]
  | .object members => .openBrace :: memberTokens members ++ [.closeBrace]

/-- The tokens of the items of an array, with commas between them. -/
def itemTokens : List Json → List Token
  | [] => []
  | [j] => tokens j
  | j :: js => tokens j ++ .comma :: itemTokens js

/-- The tokens of the members of an object, with commas between them. -/
def memberTokens : List (Literal × Json) → List Token
  | [] => []
  | [(k, j)] => .string k :: .colon :: tokens j
  | (k, j) :: ms => .string k :: .colon :: tokens j ++ .comma :: memberTokens ms

end

/-- The compact text of a value, as bytes. -/
def render (j : Json) : List UInt8 := (tokens j).flatMap Token.bytes

end TrafficShaping.Json
