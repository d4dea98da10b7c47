import TrafficShaping.Dict
import TrafficShaping.Json.Number

/-!
# Records in JSON

A record is an object with some known keys, or an array of the same values in the order of the fields.
`fields?` finds what a record holds for each of its fields: in an object the members in any order, where a
known key may not repeat and an unknown one is passed over; in an array the items by position, where those
at the end may be missing but none may be left over. It is all that readers of records use, so a reader
cannot tell the layouts of an object apart.

A dictionary is an object whose keys are data. Of two members with one key the later counts, but both have
to be readable.
-/

namespace TrafficShaping.Json

/-- The members of an object with their keys as texts. -/
def members? : Json → Option (List (String × Json))
  | .object ms => ms.mapM fun m => m.1.decode?.map fun k => (k, m.2)
  | _ => none

/-- The one value of a key: nothing if the key is absent, none if it repeats. -/
def member? (ms : List (String × Json)) (key : String) : Option (Option Json) :=
  match ms.filter (·.1 == key) with
  | [] => some none
  | [m] => some (some m.2)
  | _ => none

/-- What an object holds for each of these keys. -/
def objectFields? (names : List String) (j : Json) : Option (List (Option Json)) :=
  j.members?.bind fun ms => names.mapM (member? ms)

/-- What a record holds for each of its fields. -/
def fields? (names : List String) : Json → Option (List (Option Json))
  | .array items =>
    if items.length ≤ names.length then
      some (items.map some ++ List.replicate (names.length - items.length) none)
    else none
  | j => j.objectFields? names

/-- What a record holds for each of its fields, where an array has to have an item for each of them. -/
def exactFields? (names : List String) : Json → Option (List (Option Json))
  | .array items => if items.length = names.length then some (items.map some) else none
  | j => j.objectFields? names

/-- A field that has to be there. -/
def required {α : Type} (read : Json → Option α) (field : Option Json) : Option α := field.bind read

/-- A field with a value for when it is absent. -/
def withDefault {α : Type} (fallback : α) (read : Json → Option α) : Option Json → Option α
  | none => some fallback
  | some j => read j

/-- A value that may be `null`. -/
def nullable {α : Type} (read : Json → Option α) : Json → Option (Option α)
  | .null => some none
  | j => (read j).map some

/-- A field that may be absent or `null`. -/
def optional {α : Type} (read : Json → Option α) : Option Json → Option (Option α) :=
  withDefault none (nullable read)

def string? : Json → Option String
  | .string l => l.decode?
  | _ => none

/-- A choice by name: the name, or an object with the name as its only key and nothing under it. -/
def choice? {α : Type} (ofText? : String → Option α) : Json → Option α
  | .string l => l.decode?.bind ofText?
  | .object [(l, .null)] => l.decode?.bind ofText?
  | _ => none

def bool? : Json → Option Bool
  | .bool b => some b
  | _ => none

/-- An integer between two bounds. -/
def integerBetween? (low high : Int) : Json → Option Int
  | .number n => n.between? low high
  | _ => none

/-- A signed integer of 64 bits. -/
def int64? : Json → Option Int := integerBetween? (-Nat.pow 2 63) (Nat.pow 2 63 - 1)

def double? : Json → Option TrafficShaping.Number.Binary64
  | .number n => n.double?
  | _ => none

def list? {α : Type} (read : Json → Option α) : Json → Option (List α)
  | .array items => items.mapM read
  | _ => none

/-- A dictionary from the keys of an object. -/
def dict? {α : Type} (read : Json → Option α) (j : Json) : Option (Dict α) :=
  (j.members?.bind fun ms => ms.mapM fun m => (read m.2).map fun v => (m.1, v)).map Dict.ofList

/-- The object of a dictionary, its keys in their order. -/
def ofDict {α : Type} (write : α → Json) (d : Dict α) : Json :=
  ofFields (d.entries.map fun e => (e.1, write e.2))

mutual

/-- Whether a value can be kept as a value of its own: every string is text, every number has a double or
is a 64 bit integer, and it nests no deeper than the limit. -/
def isKeepable : Nat → Json → Bool
  | _, .null => true
  | _, .bool _ => true
  | _, .number n => n.double?.isSome
  | _, .string l => l.decode?.isSome
  | 0, .array _ => false
  | limit + 1, .array items => areKeepable limit items
  | 0, .object _ => false
  | limit + 1, .object ms => membersKeepable limit ms

def areKeepable : Nat → List Json → Bool
  | _, [] => true
  | limit, j :: js => isKeepable limit j && areKeepable limit js

def membersKeepable : Nat → List (Literal × Json) → Bool
  | _, [] => true
  | limit, (k, j) :: ms => k.decode?.isSome && isKeepable limit j && membersKeepable limit ms

end

end TrafficShaping.Json
