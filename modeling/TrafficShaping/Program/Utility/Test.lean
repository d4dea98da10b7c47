import TrafficShaping.Program.Utility.Condition

/-!
# Conditions as programs

`test` reads a condition by how many words it has: up to four words have a meaning of their own, and more of
them are conditions joined by operators. The same holds of words in parentheses.
-/

namespace TrafficShaping.Program

namespace Utility

/-- What is wrong with the condition of a program. -/
inductive TestFault where
  | missing (after : String)
  | notUnary (w : String)
  | notBinary (w : String)
  | extra (w : String)
  | unclosed (found : Option String)
  | badInteger (w : String)
deriving DecidableEq

def TestFault.message : TestFault → String
  | .missing after => "missing argument after " ++ quoted after
  | .notUnary w => quoted w ++ ": unary operator expected"
  | .notBinary w => quoted w ++ ": binary operator expected"
  | .extra w => "extra argument " ++ quoted w
  | .unclosed none => "')' expected"
  | .unclosed (some w) => "')' expected, found " ++ quoted w
  | .badInteger w => "invalid integer " ++ quoted w

namespace Test

/-- Whether a condition at the start of words holds, and the words after it. -/
abbrev Reading := Except TestFault (Bool × List String)

/-- Takes the answer of a condition for its opposite. -/
def negating (r : Reading) : Reading := r.map fun p => (!p.1, p.2)

def isOperator (w : String) : Bool :=
  (Condition.binary ++ ["=="]).contains w && !(w = "<" || w = ">")

/-- Whether a word is a dash and a letter. -/
def isSwitch (w : String) : Bool :=
  match w.toList with
  | ['-', _] => true
  | _ => false

/-- An integer with blanks around it. -/
def integer (w : String) : Except TestFault Int :=
  match integer? (Text.trim w) with
  | some n => .ok n
  | none => .error (.badInteger w)

/-- Whether one path leads to a file and the other one does not, which then counts as older. -/
def isThereAlone (c : Call) (a b : String) : Bool :=
  (c.disk.find c.directory a).toOption.isSome && (c.disk.find c.directory b).toOption.isNone

/-- Reads an operator and its operand. -/
def unary (c : Call) (last : String) : List String → Reading
  | o :: rest =>
    if !(Condition.unary ++ ["-N"]).contains o then .error (.notUnary o)
    else match rest with
      | [] => .error (.missing last)
      | a :: rest =>
        match o with
        | "-t" => do
          let _ ← integer a
          return (false, rest)
        | "-z" => .ok (a = "", rest)
        | "-n" => .ok (a ≠ "", rest)
        | o => .ok (Condition.holdsOfFile c o a, rest)
  | [] => .error (.missing last)

/-- Reads an operator between two operands. -/
def binary (c : Call) : List String → Reading
  | a :: o :: b :: rest => do
    let compared (holds : Int → Int → Bool) : Reading := do return (holds (← integer a) (← integer b), rest)
    match o with
    | "=" | "==" => return (a = b, rest)
    | "!=" => return (a ≠ b, rest)
    | "-eq" => compared fun x y => x = y
    | "-ne" => compared fun x y => x ≠ y
    | "-lt" => compared fun x y => x < y
    | "-le" => compared fun x y => x ≤ y
    | "-gt" => compared fun x y => y < x
    | "-ge" => compared fun x y => y ≤ x
    | "-ef" => return (Condition.isSameFile c a b, rest)
    | "-nt" => return (isThereAlone c a b, rest)
    | _ => return (isThereAlone c b a, rest)
  | ws => .error (.missing (ws.getLast?.getD ""))

/-- Takes a text for a condition. -/
def one : List String → Reading
  | w :: rest => .ok (w ≠ "", rest)
  | [] => .error (.missing "")

def two (c : Call) (last : String) : List String → Reading
  | "!" :: rest => negating (one rest)
  | w :: rest => if isSwitch w then unary c last (w :: rest) else .error (.missing last)
  | [] => .error (.missing last)

mutual

/-- Reads a condition of a number of words. -/
def counted (c : Call) (last : String) : Nat → Nat → List String → Reading
  | 0, _, _ => .error (.missing last)
  | n + 1, count, ws =>
    match count, ws with
    | 1, ws => one ws
    | 2, ws => two c last ws
    | 3, ws => three c last n ws
    | 4, "!" :: rest => negating (three c last n rest)
    | 4, "(" :: a :: b :: ")" :: rest => do
      let (holds, _) ← two c last [a, b]
      return (holds, rest)
    | _, ws => anyOf c last n ws

def three (c : Call) (last : String) : Nat → List String → Reading
  | 0, _ => .error (.missing last)
  | n + 1, ws =>
    match ws with
    | a :: o :: b :: rest =>
      if isOperator o then binary c ws
      else if a = "!" then negating (two c last (o :: b :: rest))
      else if a = "(" ∧ b = ")" then .ok (o ≠ "", rest)
      else if o = "-a" ∨ o = "-o" then anyOf c last n ws
      else .error (.notBinary o)
    | _ => .error (.missing last)

/-- Reads conditions joined by `-o`, all of them. -/
def anyOf (c : Call) (last : String) : Nat → List String → Reading
  | 0, _ => .error (.missing last)
  | n + 1, ws => do
    match ← allOf c last n ws with
    | (a, "-o" :: rest) => do
      let (b, rest) ← anyOf c last n rest
      return (a || b, rest)
    | r => return r

/-- Reads conditions joined by `-a`, all of them. -/
def allOf (c : Call) (last : String) : Nat → List String → Reading
  | 0, _ => .error (.missing last)
  | n + 1, ws => do
    match ← term c last n ws with
    | (a, "-a" :: rest) => do
      let (b, rest) ← allOf c last n rest
      return (a && b, rest)
    | r => return r

def term (c : Call) (last : String) : Nat → List String → Reading
  | 0, _ => .error (.missing last)
  | n + 1, ws =>
    match ws with
    | [] => .error (.missing last)
    | "!" :: rest => negating (term c last n rest)
    | "(" :: rest => do
      if rest = [] then throw (.missing last)
      let inside := (rest.tail.takeWhile (· ≠ ")")).length + 1
      match ← counted c last n (if 4 < inside then rest.length else inside) rest with
      | (holds, ")" :: rest) => return (holds, rest)
      | (_, rest) => throw (.unclosed rest.head?)
    | w :: rest =>
      if rest.length ≥ 2 ∧ rest.head?.any isOperator then binary c ws
      else if isSwitch w then unary c last ws
      else .ok (w ≠ "", rest)

end

/-- Whether words are a condition that holds. -/
def holds (c : Call) (ws : List String) : Except TestFault Bool :=
  if ws = [] then .ok false
  else do
    match ← counted c (ws.getLast?.getD "") (8 * (ws.length + 1)) ws.length ws with
    | (_, w :: _) => throw (.extra w)
    | (b, []) => return b

end Test

/-- A condition as a program: 0 if it holds, 1 if not, 2 if it is none. -/
def judge (name : String) (holds : Except TestFault Bool) : Result :=
  match holds with
  | .ok true => {}
  | .ok false => { code := 1 }
  | .error e => failing 2 (name ++ ": " ++ e.message)

def test : Utility := fun c => judge "test" (Test.holds c c.arguments)

/-- A condition that a bracket closes. -/
def bracket : Utility := fun c =>
  if c.arguments.getLast? = some "]" then judge "[" (Test.holds c c.arguments.dropLast)
  else failing 2 "[: missing ']'"

end Utility

end TrafficShaping.Program
