import TrafficShaping.Number.Decimal

/-!
# Shell arithmetic

Integers of 64 bits, with the operators of a shell, parameters by name, and assignments to them. What an
expression comes to depends on the parameters, so evaluating asks for them and assigns them through
whatever keeps them.

A text that is no expression is evaluated as far as it is one. So reading always succeeds, and what is wrong
with the text is a part of what is read, in the place where it is noticed.
-/

namespace TrafficShaping.Program

/-- An integer in 64 bits. -/
def wrapped (n : Int) : Int := n.bmod (Nat.pow 2 64)

namespace Arithmetic

inductive Operator where
  | multiply
  | divide
  | remainder
  | add
  | subtract
  | shiftLeft
  | shiftRight
  | atMost
  | less
  | atLeast
  | greater
  | equal
  | unequal
  | bitAnd
  | bitXor
  | bitOr
  | and
  | or
deriving DecidableEq

/-- The operators by their signs and by how strongly they bind. -/
def operators : List (String × Operator × Nat) :=
  [("*", .multiply, 10), ("/", .divide, 10), ("%", .remainder, 10), ("+", .add, 9), ("-", .subtract, 9),
    ("<<", .shiftLeft, 8), (">>", .shiftRight, 8), ("<=", .atMost, 7), ("<", .less, 7), (">=", .atLeast, 7),
    (">", .greater, 7), ("==", .equal, 6), ("!=", .unequal, 6), ("&", .bitAnd, 5), ("^", .bitXor, 4),
    ("|", .bitOr, 3), ("&&", .and, 2), ("||", .or, 1)]

inductive Sign where
  | minus
  | plus
  | complement
  | not
deriving DecidableEq

/-- Why an expression has no value. A quotient that does not fit ends the process. -/
inductive Failure where
  | wanted (what : String)
  | divisionByZero
  | overflow
deriving DecidableEq

def Failure.message : Failure → String
  | .wanted what => "expecting " ++ what
  | .divisionByZero => "division by zero"
  | .overflow => "overflow"

/-- An expression. One that is broken off has a part that is evaluated before that is noticed. -/
inductive Expression where
  | number (n : Int)
  | parameter (name : String)
  | sign (s : Sign) (a : Expression)
  | binary (o : Operator) (a b : Expression)
  | conditional (c a b : Expression)
  | assign (name : String) (o : Option Operator) (a : Expression)
  | broken (a : Expression) (f : Failure)

/-! ## Reading -/

inductive Token where
  | number (n : Int)
  | name (s : String)
  | sign (s : String)
deriving DecidableEq

/-- The value of a digit of any base up to 16. -/
def digitValue? (c : Char) : Option Nat :=
  if c.isDigit then some (c.toNat - 48)
  else if 'a' ≤ c ∧ c ≤ 'f' then some (c.toNat - 87)
  else if 'A' ≤ c ∧ c ≤ 'F' then some (c.toNat - 55)
  else none

/-- Reads the digits of a base from the start of a text. -/
def digitsOf (base : Nat) : List Char → List Nat × List Char
  | [] => ([], [])
  | c :: cs =>
    match (digitValue? c).filter (· < base) with
    | some d => let (ds, rest) := digitsOf base cs; (d :: ds, rest)
    | none => ([], c :: cs)

/-- Reads a number without a sign; a number that starts with a zero is in base 8 or 16. -/
def natural (cs : List Char) : Nat × List Char :=
  let valueOf (base : Nat) (ds : List Nat) : Nat := ds.foldl (fun n d => base * n + d) 0
  match cs with
  | '0' :: x :: rest =>
    if x = 'x' ∨ x = 'X' then
      match digitsOf 16 rest with
      | ([], _) => (0, x :: rest)
      | (ds, rest) => (valueOf 16 ds, rest)
    else let (ds, rest) := digitsOf 8 (x :: rest); (valueOf 8 ds, rest)
  | cs => let (ds, rest) := digitsOf 10 cs; (valueOf 10 ds, rest)

/-- The largest integer. -/
def largest : Int := Nat.pow 2 63 - 1

/-- The least integer. -/
def least : Int := -Nat.pow 2 63

/-- A number that is too large counts as the largest one. -/
def clamped (n : Int) : Int := min largest (max least n)

def isBlank (c : Char) : Bool := c = ' ' || 9 ≤ c.toNat && c.toNat ≤ 13

/-- The value of a text that is a number and no more. -/
def integer? (s : String) : Option Int :=
  let cs := s.toList.dropWhile isBlank
  let (negative, cs) := match cs with
    | '-' :: cs => (true, cs)
    | '+' :: cs => (false, cs)
    | cs => (false, cs)
  if (cs.head?.map Char.isDigit).getD false then
    let (n, rest) := natural cs
    let n : Int := if negative then -n else n
    if rest.all isBlank && clamped n = n then some n else none
  else none

/-- The signs, longer ones before those that they start with. -/
def signs : List String :=
  ["<<=", ">>=", "<<", ">>", "<=", ">=", "==", "!=", "&&", "||", "*=", "/=", "%=", "+=", "-=", "&=", "^=",
    "|=", "*", "/", "%", "+", "-", "<", ">", "&", "^", "|", "=", "!", "~", "?", ":", "(", ")"]

/-- Cuts a text into tokens, of which there are no more than characters. What is no token ends the text with
one that means nothing. -/
def tokens : Nat → List Char → List Token
  | 0, _ => []
  | n + 1, cs =>
    match cs with
    | [] => []
    | c :: rest =>
      if isBlank c then tokens n rest
      else if c.isDigit then
        let (v, rest) := natural cs
        .number (clamped v) :: tokens n rest
      else if c.isAlpha || c = '_' then
        let name := cs.takeWhile fun c => c.isAlphanum || c = '_'
        .name (String.ofList name) :: tokens n (cs.drop name.length)
      else match signs.find? fun s => s.toList.isPrefixOf cs with
        | some s => .sign s :: tokens n (cs.drop s.length)
        | none => [.sign ""]

/-- The operator that an assignment applies; none within for the plain one. -/
def assignment? (s : String) : Option (Option Operator) :=
  if s = "=" then some none
  else (operators.find? fun o => o.1 ++ "=" = s && o.2.2 ≠ 7 && o.2.2 ≠ 6).map fun o => some o.2.1

/-- An expression and the tokens behind it, of which none are left where it is broken off. -/
abbrev Reading := Expression × List Token

/-- An expression that is missing. -/
def missing : Reading := (.broken (.number 0) (.wanted "primary"), [])

mutual

/-- Reads an assignment or a conditional. -/
def expression : Nat → List Token → Reading
  | 0, _ => missing
  | fuel + 1, ts =>
    match ts with
    | .name x :: .sign s :: rest =>
      match assignment? s with
      | some o => let (a, rest) := expression fuel rest; (.assign x o a, rest)
      | none => conditional fuel ts
    | ts => conditional fuel ts

def conditional : Nat → List Token → Reading
  | 0, _ => missing
  | fuel + 1, ts =>
    match binary fuel 1 ts with
    | (c, .sign "?" :: rest) =>
      match expression fuel rest with
      | (a, .sign ":" :: rest) => let (b, rest) := conditional fuel rest; (.conditional c a b, rest)
      | (a, _) => (.conditional c (.broken a (.wanted "':'")) (.number 0), [])
    | read => read

/-- Reads operators that bind at least as strongly as given. -/
def binary : Nat → Nat → List Token → Reading
  | 0, _, _ => missing
  | fuel + 1, least, ts => let (a, rest) := signed fuel ts; operands fuel least a rest

def operands : Nat → Nat → Expression → List Token → Reading
  | 0, _, a, ts => (a, ts)
  | fuel + 1, least, a, ts =>
    match ts with
    | .sign s :: rest =>
      match operators.lookup s with
      | some (o, strength) =>
        if strength < least then (a, ts)
        else let (b, rest) := binary fuel (strength + 1) rest; operands fuel least (.binary o a b) rest
      | none => (a, ts)
    | ts => (a, ts)

/-- Reads a value with its signs. -/
def signed : Nat → List Token → Reading
  | 0, _ => missing
  | fuel + 1, ts =>
    let under (s : Sign) (rest : List Token) : Reading :=
      let (a, rest) := signed fuel rest; (.sign s a, rest)
    match ts with
    | .number n :: rest => (.number n, rest)
    | .name x :: rest => (.parameter x, rest)
    | .sign "-" :: rest => under .minus rest
    | .sign "+" :: rest => under .plus rest
    | .sign "~" :: rest => under .complement rest
    | .sign "!" :: rest => under .not rest
    | .sign "(" :: rest =>
      match expression fuel rest with
      | (a, .sign ")" :: rest) => (a, rest)
      | (a, _) => (.broken a (.wanted "')'"), [])
    | _ => missing

end

/-- Reads an expression. -/
def read (s : String) : Expression :=
  let ts := tokens (s.length + 1) s.toList
  match expression (16 * (ts.length + 1)) ts with
  | (e, []) => e
  | (e, _) => .broken e (.wanted "EOF")

/-! ## Evaluating -/

def ofBool (b : Bool) : Int := if b then 1 else 0

/-- The bits of an integer, as a number without a sign. -/
def bits (n : Int) : Nat := (n % Nat.pow 2 64).toNat

def Operator.apply (o : Operator) (a b : Int) : Except Failure Int :=
  let failure? : Option Failure :=
    if b = 0 then some .divisionByZero else if a = least ∧ b = -1 then some .overflow else none
  match o with
  | .multiply => .ok (wrapped (a * b))
  | .divide => if let some e := failure? then .error e else .ok (a.tdiv b)
  | .remainder => if let some e := failure? then .error e else .ok (a.tmod b)
  | .add => .ok (wrapped (a + b))
  | .subtract => .ok (wrapped (a - b))
  | .shiftLeft => .ok (wrapped (a * Nat.pow 2 (bits b % 64)))
  | .shiftRight => .ok (a / Nat.pow 2 (bits b % 64))
  | .atMost => .ok (ofBool (a ≤ b))
  | .less => .ok (ofBool (a < b))
  | .atLeast => .ok (ofBool (b ≤ a))
  | .greater => .ok (ofBool (b < a))
  | .equal => .ok (ofBool (a = b))
  | .unequal => .ok (ofBool (a ≠ b))
  | .bitAnd => .ok (wrapped ((bits a &&& bits b : Nat) : Int))
  | .bitXor => .ok (wrapped ((bits a ^^^ bits b : Nat) : Int))
  | .bitOr => .ok (wrapped ((bits a ||| bits b : Nat) : Int))
  | .and => .ok (ofBool (a ≠ 0 && b ≠ 0))
  | .or => .ok (ofBool (a ≠ 0 || b ≠ 0))

def Sign.apply (s : Sign) (a : Int) : Int :=
  match s with
  | .minus => wrapped (-a)
  | .plus => a
  | .complement => -a - 1
  | .not => ofBool (a = 0)

/-- What is wrong with an expression that is not evaluated. -/
def Expression.failure? : Expression → Option Failure
  | .number _ | .parameter _ => none
  | .sign _ a | .assign _ _ a => a.failure?
  | .binary _ a b => a.failure? <|> b.failure?
  | .conditional c a b => c.failure? <|> a.failure? <|> b.failure?
  | .broken a f => a.failure? <|> some f

/-- Evaluates an expression, with a way to look parameters up, one to assign them, and one to fail. -/
def Expression.evaluate {m : Type → Type} [Monad m] (look : String → m Int) (put : String → Int → m Unit)
    (fail : Failure → m Int) : Expression → m Int
  | .number n => pure n
  | .parameter x => look x
  | .sign s a => return s.apply (← a.evaluate look put fail)
  | .binary .and a b => do
    if (← a.evaluate look put fail) = 0 then unlessBroken b.failure? 0
    else return ofBool ((← b.evaluate look put fail) ≠ 0)
  | .binary .or a b => do
    if (← a.evaluate look put fail) ≠ 0 then unlessBroken b.failure? 1
    else return ofBool ((← b.evaluate look put fail) ≠ 0)
  | .binary o a b => do
    let x ← a.evaluate look put fail
    let y ← b.evaluate look put fail
    result (o.apply x y)
  | .conditional c a b => do
    if (← c.evaluate look put fail) ≠ 0 then do
      let n ← a.evaluate look put fail
      unlessBroken b.failure? n
    else do
      let _ ← unlessBroken a.failure? 0
      b.evaluate look put fail
  | .assign x o a => do
    let n ← a.evaluate look put fail
    let n ← match o with
      | none => pure n
      | some o => do result (o.apply (← look x) n)
    put x n
    return n
  | .broken a f => do
    let _ ← a.evaluate look put fail
    fail f
where
  /-- A value, unless something is wrong. -/
  unlessBroken (e : Option Failure) (n : Int) : m Int :=
    match e with
    | none => pure n
    | some e => fail e
  result (r : Except Failure Int) : m Int :=
    match r with
    | .ok n => pure n
    | .error e => fail e

end Arithmetic

end TrafficShaping.Program
