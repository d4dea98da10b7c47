import TrafficShaping.Program.Pattern
import TrafficShaping.Program.Utility.Lines

/-!
# Utilities on characters

Programs that translate, drop or encode the bytes that they read.
-/

namespace TrafficShaping.Program

namespace Utility

/-! ## Translating -/

/-- The characters of a set, with ranges, classes and escapes; otherwise what is wrong with it. Every step
takes a character. -/
def charsOf : Nat → List Char → Except String (List Char)
  | 0, _ => .ok []
  | n + 1, cs =>
    match cs with
    | [] => .ok []
    | '[' :: ':' :: rest =>
      let name := rest.takeWhile Char.isAlpha
      match charClass? (String.ofList name), rest.drop name.length with
      | some p, ':' :: ']' :: rest => do return ((List.range 256).map Char.ofNat).filter p ++ (← charsOf n rest)
      | none, ':' :: ']' :: _ => .error ("invalid character class " ++ quoted (String.ofList name))
      | _, _ => ranged n '[' (':' :: rest)
    | '\\' :: rest =>
      match escape { octal := true } rest with
      | .ok ([b], taken) => ranged n b (rest.drop taken)
      | .ok ([_, b], taken) => ranged n b (rest.drop taken)
      | _ => do return '\\' :: (← charsOf n rest)
    | c :: rest => ranged n c rest
where
  ranged (n : Nat) (a : Char) : List Char → Except String (List Char)
    | '-' :: b :: rest =>
      if b < a then
        .error ("range-endpoints of " ++ quoted (a.toString ++ "-" ++ b.toString) ++
          " are in reverse collating sequence order")
      else do
        let between := (List.range (b.toNat + 1 - a.toNat)).map fun i => Char.ofNat (a.toNat + i)
        return between ++ (← charsOf n rest)
    | rest => do return a :: (← charsOf n rest)

/-- Leaves one of neighbours that are alike, if they are in a set. -/
def squeezed (p : Char → Bool) (cs : List Char) : List Char :=
  (cs.foldl (fun out c => if out.head? = some c && p c then out else c :: out) []).reverse

def tr : Utility := withOptions "tr" 1
  { letters := "cCdst", areInFront := true
    names := [("complement", 'c'), ("delete", 'd'), ("squeeze-repeats", 's'), ("truncate-set1", 't')] } fun c g =>
  let complement := g.has 'c' || g.has 'C'
  let deletes := g.has 'd'
  let squeezes := g.has 's'
  let least := if deletes = squeezes then 2 else 1
  let most := if deletes && !squeezes then 1 else 2
  let wrong (complaint : String) : Result := misused "tr" 1 complaint
  match g.operands with
  | [] => wrong "missing operand"
  | [one] => if least = 2 then
      wrong ("missing operand after " ++ quoted one ++ "\nTwo strings must be given when " ++
        (if deletes then "both deleting and squeezing repeats." else "translating."))
    else run c complement deletes squeezes [one]
  | one :: two :: more =>
    match (one :: two :: more)[most]? with
    | some extra =>
      wrong ("extra operand " ++ quoted extra ++
        (if most = 1 ∧ more = [] then "\nOnly one string may be given when deleting without squeezing repeats."
          else ""))
    | none => run c complement deletes squeezes [one, two]
where
  run (c : Call) (complement deletes squeezes : Bool) (sets : List String) : Result :=
    match sets.mapM fun s => charsOf (s.length + 1) s.toList with
    | .error e => failing 1 ("tr: " ++ e)
    | .ok sets =>
      let first := sets.headD []
      let second := (sets[1]?).getD []
      let isIn (x : Char) : Bool := first.contains x != complement
      let translated (x : Char) : Char :=
        if !isIn x || second = [] then x
        else if complement then second.getLast?.getD x
        else match first.idxOf? x with
          | some i => (second[i]?).getD (second.getLast?.getD x)
          | none => x
      let cs := c.input.toList
      let out :=
        if deletes then
          let kept := cs.filter (!isIn ·)
          if squeezes then squeezed (second.contains ·) kept else kept
        else if sets.length = 1 then squeezed isIn cs
        else
          let cs := cs.map translated
          if squeezes then squeezed (second.contains ·) cs else cs
      { out := String.ofList out, hasRead := true }

/-! ## Base 64 -/

/-- The digits of base 64 in order. -/
def base64Digits : List Char :=
  "ABCDEFGHIJKLMNOPQRSTUVWXYZabcdefghijklmnopqrstuvwxyz0123456789+/".toList

/-- Three bytes as four digits; where bytes are missing there are equals signs. -/
def base64Of : List Char → List Char
  | [] => []
  | [a] => digits a '\x00' '\x00' 2 ++ ['=', '=']
  | [a, b] => digits a b '\x00' 3 ++ ['=']
  | a :: b :: c :: rest => digits a b c 4 ++ base64Of rest
where
  digits (a b c : Char) (count : Nat) : List Char :=
    let n := a.toNat * 65536 + b.toNat * 256 + c.toNat
    ([n / 262144, n / 4096 % 64, n / 64 % 64, n % 64].take count).filterMap fun i => base64Digits[i]?

/-- The bytes that digits stand for, and whether all of them were digits. -/
def ofBase64 : List Char → List Char × Bool
  | a :: b :: c :: d :: rest =>
    match base64Digits.idxOf? a, base64Digits.idxOf? b, base64Digits.idxOf? c, base64Digits.idxOf? d with
    | some a, some b, some c, some d =>
      let (out, isWhole) := ofBase64 rest
      (bytes (a * 262144 + b * 4096 + c * 64 + d) ++ out, isWhole)
    | some a, some b, some c, none => ((bytes (a * 262144 + b * 4096 + c * 64)).take 2, d = '=' && rest = [])
    | some a, some b, none, none => ((bytes (a * 262144 + b * 4096)).take 1, c = '=' && d = '=' && rest = [])
    | _, _, _, _ => ([], false)
  | [] => ([], true)
  | _ => ([], false)
where
  bytes (n : Nat) : List Char := [n / 65536, n / 256 % 256, n % 256].map Char.ofNat

def base64 : Utility := withOptions "base64" 1
  { letters := "diw:", names := [("decode", 'd'), ("ignore-garbage", 'i'), ("wrap", 'w')] } fun c g =>
  let width := ((g.value? 'w').bind fun w => Number.natural? w.toList).getD 76
  let read := sources "base64" {} Disk.enough c (filesOf (g.operands.take 1))
  let s := String.join ((texts read).map (·.2))
  let hasRead := (filesOf g.operands).contains "-"
  if complaints read ≠ [] then { code := 1, err := lines (complaints read) }
  else if g.has 'd' then
    let (out, isWhole) := ofBase64 (s.toList.filter (· ≠ '\n'))
    { out := String.ofList out, hasRead
      code := if isWhole then 0 else 1
      err := if isWhole then "" else "base64: invalid input\n" }
  else
    let ds := base64Of s.toList
    let rows := if width = 0 then [ds] else piecesOf width ds.length ds
    { out := if width = 0 then String.ofList ds else lines (rows.map String.ofList), hasRead }

end Utility

end TrafficShaping.Program
