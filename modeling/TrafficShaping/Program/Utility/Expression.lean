import TrafficShaping.Program.Regex
import TrafficShaping.Program.Utility.Basic

/-!
# Expressions of words

`expr` works out an expression whose words are its arguments: numbers, texts and operators between them. A
comparison is one of numbers if both sides are numbers, and otherwise one of texts.
-/

namespace TrafficShaping.Program

namespace Utility

/-- What is wrong with an expression of `expr`. -/
inductive ExprFault where
  | missing (after : String)
  | unexpected (w : String)
  | notInteger
  | divisionByZero
  | unclosed (w : String)
  | badPattern (e : Regex.Fault)
deriving DecidableEq

def ExprFault.message : ExprFault → String
  | .missing after => "syntax error: missing argument after " ++ quoted after
  | .unexpected w => "syntax error: unexpected argument " ++ quoted w
  | .notInteger => "non-integer argument"
  | .divisionByZero => "division by zero"
  | .unclosed w => "syntax error: expecting ')' after " ++ quoted w
  | .badPattern e => e.message

/-- Whether a value of `expr` counts as nothing. -/
def isNull (s : String) : Bool := s = "" || integer? s = some 0

/-- The match of a regular expression at the start of a text: its first group, or its length. -/
def matchText (s pattern : String) : Except ExprFault String :=
  match Regex.read false pattern with
  | .error e => .error (.badPattern e)
  | .ok r =>
    let hasGroup := r.groupCount ≠ 0
    .ok (match r.longest? { left := s.toList } with
      | some p =>
        if hasGroup then String.ofList ((p.groups.lookup 1).getD [])
        else Number.naturalText (s.length - p.left.length)
      | none => if hasGroup then "" else "0")

/-- Applies an operator of `expr`. -/
def applyExpr (o a b : String) : Except ExprFault String :=
  let arithmetic (f : Int → Int → Except ExprFault Int) : Except ExprFault String :=
    match integer? a, integer? b with
    | some x, some y => (f x y).map Number.integerText
    | _, _ => .error .notInteger
  let compared (p : Int → Int → Bool) (q : String → String → Bool) : Except ExprFault String :=
    .ok (if (match integer? a, integer? b with
      | some x, some y => p x y
      | _, _ => q a b) then "1" else "0")
  match o with
  | "|" => .ok (if isNull a then (if isNull b then "0" else b) else a)
  | "&" => .ok (if isNull a || isNull b then "0" else a)
  | "<" => compared (fun x y => x < y) fun x y => decide (x < y)
  | "<=" => compared (fun x y => x ≤ y) fun x y => decide (x ≤ y)
  | "=" | "==" => compared (fun x y => x = y) fun x y => x = y
  | "!=" => compared (fun x y => x ≠ y) fun x y => x ≠ y
  | ">=" => compared (fun x y => y ≤ x) fun x y => decide (y ≤ x)
  | ">" => compared (fun x y => y < x) fun x y => decide (y < x)
  | "+" => arithmetic fun x y => .ok (x + y)
  | "-" => arithmetic fun x y => .ok (x - y)
  | "*" => arithmetic fun x y => .ok (x * y)
  | "/" => arithmetic fun x y => if y = 0 then .error .divisionByZero else .ok (x.tdiv y)
  | "%" => arithmetic fun x y => if y = 0 then .error .divisionByZero else .ok (x.tmod y)
  | _ => matchText a b

/-- The operators of `expr` and how strongly they bind. -/
def exprOperators : List (String × Nat) :=
  [("|", 1), ("&", 2), ("<", 3), ("<=", 3), ("=", 3), ("==", 3), ("!=", 3), (">=", 3), (">", 3), ("+", 4),
    ("-", 4), ("*", 5), ("/", 5), ("%", 5), (":", 6)]

mutual

/-- Reads operators that bind at least as strongly as given; `last` is the word before. -/
def exprBinary : Nat → Nat → String → List String → Except ExprFault (String × String × List String)
  | 0, _, last, _ => .error (.missing last)
  | n + 1, least, last, ws => do
    let (a, last, ws) ← exprPrimary n last ws
    exprMore n least a last ws

def exprMore : Nat → Nat → String → String → List String → Except ExprFault (String × String × List String)
  | 0, _, a, last, ws => .ok (a, last, ws)
  | n + 1, least, a, last, ws =>
    match ws with
    | o :: rest =>
      match exprOperators.lookup o with
      | some strength =>
        if strength < least then .ok (a, last, ws)
        else do
          let (b, last, rest) ← exprBinary n (strength + 1) o rest
          exprMore n least (← applyExpr o a b) last rest
      | none => .ok (a, last, ws)
    | [] => .ok (a, last, ws)

def exprPrimary : Nat → String → List String → Except ExprFault (String × String × List String)
  | 0, last, _ => .error (.missing last)
  | n + 1, last, ws =>
    match ws with
    | [] => .error (.missing last)
    | "(" :: rest => do
      let (a, last, rest) ← exprBinary n 1 "(" rest
      match rest with
      | ")" :: rest => return (a, ")", rest)
      | _ => throw (.unclosed last)
    | ")" :: _ => .error (.unexpected ")")
    | "length" :: rest => do
      let (s, last, rest) ← exprPrimary n "length" rest
      return (Number.naturalText s.length, last, rest)
    | "index" :: rest => do
      let (s, last, rest) ← exprPrimary n "index" rest
      let (set, last, rest) ← exprPrimary n last rest
      let i := (s.toList.findIdx? fun c => set.toList.contains c).map (· + 1)
      return (Number.naturalText (i.getD 0), last, rest)
    | "substr" :: rest => do
      let (s, last, rest) ← exprPrimary n "substr" rest
      let (start, last, rest) ← exprPrimary n last rest
      let (count, last, rest) ← exprPrimary n last rest
      let from? := (integer? start).filter (1 ≤ ·)
      let cut := from?.elim "" fun i =>
        String.ofList ((s.toList.drop (i.toNat - 1)).take ((integer? count).getD 0).toNat)
      return (cut, last, rest)
    | w :: rest => .ok (w, w, rest)

end

def expr : Utility := fun c =>
  let words := if c.arguments.head? = some "--" then c.arguments.tail else c.arguments
  if words = [] then misused "expr" 2 "missing operand"
  else match exprBinary (16 * (words.length + 1)) 1 "" words with
    | .ok (s, _, []) => { code := if isNull s then 1 else 0, out := s ++ "\n" }
    | .ok (_, _, w :: _) => failing 2 ("expr: " ++ (ExprFault.unexpected w).message)
    | .error e => failing 2 ("expr: " ++ e.message)

end Utility

end TrafficShaping.Program
