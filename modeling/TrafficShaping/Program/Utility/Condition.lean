import TrafficShaping.Program.Utility.Basic

/-!
# Conditions

A condition is a list of words: operands, operators and parentheses. Which word is an operator depends on
those after it, so that also a text that looks like an operator can be an operand. The words are read from
left to right, here as a shell reads them; what is left over after a whole condition is an error.
-/

namespace TrafficShaping.Program

namespace Condition

/-- What is wrong with a condition. -/
inductive Fault where
  | unexpected (w : String)
  | noArgument (operator : String)
  | unclosed
  | badNumber (w : String)
deriving DecidableEq

def unary : List String :=
  ["-r", "-w", "-x", "-e", "-f", "-d", "-c", "-b", "-p", "-u", "-g", "-k", "-s", "-h", "-L", "-S", "-t", "-z",
    "-n", "-O", "-G"]

def binary : List String :=
  ["=", "!=", "<", ">", "-eq", "-ne", "-ge", "-gt", "-le", "-lt", "-nt", "-ot", "-ef"]

/-- What a word is where a condition may start. -/
inductive Role where
  | nothing
  | operand
  | unary
  | binary
  | and
  | or
  | not
  | open
  | close
deriving DecidableEq

/-- The role of the first of some words. -/
def role : List String → Role
  | [] => .nothing
  | w :: rest =>
    if unary.contains w then
      match rest with
      | [] => .operand
      | [_] => .unary
      | b :: _ :: _ => if binary.contains b then .operand else .unary
    else if binary.contains w then .binary
    else if w = "-a" then .and
    else if w = "-o" then .or
    else if w = "!" then .not
    else if w = "(" then (if rest = [] then .operand else .open)
    else if w = ")" then .close
    else .operand

/-- An integer with blanks around it. -/
def integer (w : String) : Except Fault Int :=
  match Utility.integer? (Text.trim w) with
  | some n => if -Nat.pow 2 63 ≤ n ∧ n < Nat.pow 2 63 then .ok n else .error (.badNumber w)
  | none => .error (.badNumber w)

/-- Whether a file is what an operator asks for. Everybody may do everything, except run what is no
program. -/
def holdsOfFile (c : Call) (operator file : String) : Bool :=
  let l := c.disk.find c.directory file
  let isThere := l.toOption.isSome
  let isDirectory := l.toOption.any c.disk.tree.isDirectory
  let devices := ["null", "zero", "full", "random", "urandom"]
  let isDevice := l.toOption.any fun l => Disk.isDevice l devices
  match operator with
  | "-e" | "-r" | "-w" | "-O" | "-G" => isThere
  | "-d" => isDirectory
  | "-f" => isThere && !isDirectory && !isDevice
  | "-c" => isDevice
  | "-x" => isDirectory || l.toOption.any c.disk.isRunnable
  | "-s" =>
    isDirectory || l.toOption.any fun l =>
      (Machine.programAt? l).isSome || l.drop 1 == Machine.location "etc" ||
        ((c.disk.read l 0).toOption.getD "") ≠ ""
  | "-h" | "-L" =>
    match (c.disk.entry c.directory file).toOption.bind c.disk.tree.get? with
    | some (.link _) => true
    | _ => false
  | _ => false

/-- Whether two paths lead to the same file. -/
def isSameFile (c : Call) (a b : String) : Bool :=
  match c.disk.find c.directory a, c.disk.find c.directory b with
  | .ok l, .ok k => l = k
  | _, _ => false

def holdsOfOne (c : Call) (operator operand : String) : Except Fault Bool :=
  match operator with
  | "-z" => .ok (operand = "")
  | "-n" => .ok (operand ≠ "")
  | "-t" => do
    let _ ← integer operand
    return false
  | operator => .ok (holdsOfFile c operator operand)

/-- Whether an operator holds between two operands. Of two files none is newer than the other one. -/
def holdsOfTwo (c : Call) (operator a b : String) : Except Fault Bool :=
  let compared (holds : Int → Int → Bool) : Except Fault Bool := do
    let x ← integer a
    let y ← integer b
    return holds x y
  match operator with
  | "=" => .ok (a = b)
  | "!=" => .ok (a ≠ b)
  | "<" => .ok (decide (a < b))
  | ">" => .ok (decide (b < a))
  | "-eq" => compared fun x y => x = y
  | "-ne" => compared fun x y => x ≠ y
  | "-lt" => compared fun x y => x < y
  | "-le" => compared fun x y => x ≤ y
  | "-gt" => compared fun x y => y < x
  | "-ge" => compared fun x y => y ≤ x
  | "-ef" => .ok (isSameFile c a b)
  | _ => .ok false

mutual

/-- Reads conditions joined by `-o`. All readers give the words from the last one that they took on. -/
def anyOf (c : Call) : Nat → Role → List String → Except Fault (Bool × List String)
  | 0, _, ws => .ok (false, ws)
  | n + 1, r, ws => do
    let (b, ws) ← allOf c n r ws
    if role (ws.drop 1) = .or then
      let (b', ws) ← anyOf c n (role (ws.drop 2)) (ws.drop 2)
      return (b || b', ws)
    else return (b, ws)

/-- Reads conditions joined by `-a`. -/
def allOf (c : Call) : Nat → Role → List String → Except Fault (Bool × List String)
  | 0, _, ws => .ok (false, ws)
  | n + 1, r, ws => do
    let (b, ws) ← negated c n r ws
    if role (ws.drop 1) = .and then
      let (b', ws) ← allOf c n (role (ws.drop 2)) (ws.drop 2)
      return (b && b', ws)
    else return (b, ws)

def negated (c : Call) : Nat → Role → List String → Except Fault (Bool × List String)
  | 0, _, ws => .ok (false, ws)
  | n + 1, r, ws =>
    if r = .not then do
      let next := role (ws.drop 1)
      let (b, ws) ← negated c n next (if next = .nothing then ws else ws.drop 1)
      return (!b, ws)
    else primary c n r ws

def primary (c : Call) : Nat → Role → List String → Except Fault (Bool × List String)
  | 0, _, ws => .ok (false, ws)
  | n + 1, r, ws =>
    match r, ws with
    | .nothing, ws => .ok (false, ws)
    | .open, _ :: rest =>
      if role rest = .close then .ok (false, rest)
      else do
        let (b, ws) ← anyOf c n (role rest) rest
        if role (ws.drop 1) = .close then return (b, ws.drop 1) else throw .unclosed
    | .unary, operator :: operand :: rest => do
      return (← holdsOfOne c operator operand, operand :: rest)
    | _, a :: operator :: rest =>
      if role (operator :: rest) = .binary then
        match rest with
        | [] => .error (.noArgument operator)
        | b :: _ => do return (← holdsOfTwo c operator a b, rest)
      else .ok (a ≠ "", ws)
    | _, [a] => .ok (a ≠ "", ws)
    | _, [] => .ok (false, ws)

end

/-- Reads a whole condition. -/
def whole (c : Call) (r : Role) (ws : List String) : Except Fault Bool := do
  let (b, rest) ← anyOf c (8 * (ws.length + 1)) r ws
  match rest with
  | w :: _ :: _ => throw (.unexpected w)
  | _ => return b

/-- Whether a condition holds. With three words and an operator between two the outer ones are operands; of
up to four words the first may negate the others or be a parenthesis around them. -/
def holds (c : Call) : List String → Except Fault Bool
  | [] => .ok false
  | [a, b, d] =>
    if binary.contains b then whole c .operand [a, b, d]
    else if a = "(" ∧ d = ")" then whole c (role [b]) [b]
    else if a = "!" then do return !(← whole c (role [b, d]) [b, d])
    else whole c (role [a, b, d]) [a, b, d]
  | [a, b, d, e] =>
    if a = "(" ∧ e = ")" then whole c (role [b, d]) [b, d]
    else if a = "!" then
      if binary.contains d then do return !(← whole c .operand [b, d, e])
      else do return !(← whole c (role [b, d, e]) [b, d, e])
    else whole c (role [a, b, d, e]) [a, b, d, e]
  | ws => whole c (role ws) ws

def Fault.message : Fault → String
  | .unexpected w => (if w = "" then "" else w ++ ": ") ++ "unexpected operator"
  | .noArgument operator => operator ++ ": argument expected"
  | .unclosed => "closing paren expected"
  | .badNumber w => "Illegal number: " ++ w

end Condition

end TrafficShaping.Program
