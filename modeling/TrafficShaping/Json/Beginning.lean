import TrafficShaping.Json.Fields
import TrafficShaping.Json.Parser

/-!
# Texts that break off

A text may stop before its value is complete and still have nothing wrong with it: more bytes could make a
value of it. `Beginning.ofBytes?` reads such a text as far as it goes, along the one path of arrays and
objects that are still open.

Whether a beginning may become a value of some kind is another question, and depends on what is looked at
when. What is complete is held to its kind at once. Of what is not complete only the first byte of an array
or an object tells its kind; a number or a word is let through until it ends.
-/

namespace TrafficShaping.Json

/-- A value of which only a beginning is there. An open array has its complete items and what follows them,
an open object its complete members and then a key or a member that is not complete. A number is complete
as soon as it could be. -/
inductive Beginning where
  | nothing
  | word (t : Token)
  | number
  | string (pieces : Literal)
  | whole (j : Json)
  | array (items : List Json) (last : Beginning)
  | key (members : List (Literal × Json)) (k : Beginning)
  | member (members : List (Literal × Json)) (key : Literal) (value : Beginning)

/-- Whether fewer than four bytes are left. -/
def isAlmostOver (bytes : List UInt8) : Bool := (bytes.drop 3).isEmpty

/-- Reads bytes of a text that breaks off. An escape by code unit is looked at only when all of its digits
have to be there. -/
def Token.scanOpen : Token.State → List Token → List UInt8 → Option (Token.State × List Token)
  | s, out, [] => some (s, out)
  | s, out, b :: bs =>
    match step s b with
    | some (.unit pieces missing code, ts) =>
      if missing = 3 ∧ isAlmostOver bs then some (.unit pieces missing code, ts ++ out)
      else scanOpen (.unit pieces missing code) (ts ++ out) bs
    | some (s, ts) => scanOpen s (ts ++ out) bs
    | none => none

namespace Beginning

/-- What a lexer is in the middle of; a number that may end is complete. -/
def ofToken? : Token.State → Option Beginning
  | .between => none
  | .literal ps | .escape ps | .unit ps _ _ => some (.string ps.reverse)
  | .word _ t => some (.word t)
  | .number _ => some .number

/-- What a lexer has read when the text breaks off: the tokens, and the one that it is in the middle of. -/
def split (s : Token.State) (out : List Token) : List Token × Option Beginning :=
  match s with
  | .number d =>
    match d.finish? with
    | some n => ((.number n :: out).reverse, none)
    | none => (out.reverse, ofToken? s)
  | _ => (out.reverse, ofToken? s)

/-- The innermost value that is not complete, from what may come next and the token that is cut off. -/
def innermost? : Awaiting → Option Beginning → Option Beginning
  | .after j, none => some (.whole j)
  | .value, b | .firstItem, b | .firstKey, b | .key, b => some (b.getD .nothing)
  | .colon, none => some .nothing
  | .after _, some _ | .colon, some _ => none

/-- What an open frame makes of the beginning in it. -/
def within : Beginning → Frame → Beginning
  | b, .array items => .array items.reverse b
  | b, .object members => .key members.reverse b
  | b, .member members name => .member members.reverse name b

/-- What there is of a value when its text breaks off; none if no value begins so. -/
def ofBytes? (bytes : List UInt8) : Option Beginning := do
  let (s, out) ← Token.scanOpen .between [] bytes
  let (ts, cut) := split s out
  let (a, stack) ← walk .value [] ts
  return stack.foldl within (← innermost? a cut)

end Beginning

/-- Whether what there is of a literal may become text: no surrogate stands alone in it, unless it is the
last piece. -/
def Literal.isOpen : Literal → Bool
  | [] => true
  | .byte _ :: rest | .short _ :: rest => isOpen rest
  | .unit code :: rest =>
    if isLowSurrogate code then false
    else if isHighSurrogate code then
      match rest with
      | [] => true
      | .unit low :: rest => isLowSurrogate low && isOpen rest
      | .byte _ :: _ | .short _ :: _ => false
    else isOpen rest

namespace Beginning

/-- Whether a key may still become text. -/
def isKey : Beginning → Bool
  | .nothing => true
  | .string l => l.isOpen
  | _ => false

/-- Whether a value that nobody reads may begin so. It may not break off in a number that needs another
digit. -/
def isPassedOver : Beginning → Bool
  | .nothing | .word _ | .string _ | .whole _ => true
  | .number => false
  | .array _ last => last.isPassedOver
  | .key _ .nothing | .key _ (.string _) => true
  | .key _ _ => false
  | .member _ _ value => value.isPassedOver

end Beginning

/-! ## Kinds of values -/

/-- A kind of values: which whole values are of it, and which beginnings may become one of it. -/
structure Kind where
  holds : Json → Bool
  admits : Beginning → Bool

namespace Kind

/-- A kind whose values are neither arrays nor objects. -/
def scalar {α : Type} (read : Json → Option α) : Kind where
  holds j := (read j).isSome
  admits
    | .nothing | .word _ | .number => true
    | .string l => l.isOpen
    | .whole j => (read j).isSome
    | .array _ _ | .key _ _ | .member _ _ _ => false

/-- The kind with `null` added. -/
def optional (k : Kind) : Kind where
  holds
    | .null => true
    | j => k.holds j
  admits
    | .word .null | .whole .null => true
    | b => k.admits b

def null? : Json → Option Unit
  | .null => some ()
  | _ => none

/-- A choice by name. It shows by its first byte, and its name is looked at before what stands under it. -/
def choice {α : Type} (ofText? : String → Option α) : Kind where
  holds j := (choice? ofText? j).isSome
  admits
    | .nothing => true
    | .string l => l.isOpen
    | .whole j => (choice? ofText? j).isSome
    | .key [] name => (scalar string?).admits name
    | .member [] name value => (name.decode?.bind ofText?).isSome && (scalar null?).admits value
    | _ => false

/-- A dictionary of values of a kind. -/
def dict {α : Type} (read : Json → Option α) (k : Kind) : Kind where
  holds j := (dict? read j).isSome
  admits
    | .key ms key => (dict? read (.object ms)).isSome && key.isKey
    | .member ms name value =>
      (dict? read (.object ms)).isSome && name.decode?.isSome && k.admits value
    | b => (scalar (dict? read)).admits b

/-- What complete members tell of a record: every key is text, and what is there for a field, once at most,
is of its kind. -/
def holdsMembers (fields : List (String × Kind)) (ms : List (Literal × Json)) : Bool :=
  (members? (.object ms)).any fun ms =>
    fields.all fun f => (member? ms f.1).any fun j => j.all f.2.holds

/-- A record with fields of these kinds. That a key repeats is known once the key is complete, and that an
array has too many items once a comma follows the last one. -/
def record {α : Type} (read : Json → Option α) (fields : List (String × Kind)) : Kind where
  holds j := (read j).isSome
  admits
    | .array items last =>
      (items.zip fields).all (fun i => i.2.2.holds i.1) && fields[items.length]?.any (·.2.admits last)
    | .key ms k => holdsMembers fields ms && k.isKey
    | .member ms name value =>
      holdsMembers fields ms && name.decode?.any fun name =>
        match fields.lookup name with
        | some k => ms.all (·.1.decode? != some name) && k.admits value
        | none => value.isPassedOver
    | b => (scalar read).admits b

end Kind

end TrafficShaping.Json
