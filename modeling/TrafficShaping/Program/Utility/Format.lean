import TrafficShaping.Program.Utility.Floating

/-!
# Writing by a format

`echo` and `printf` replace escapes, and `printf` writes values as its format says, again and again until no
value is left. A shell has both of them too, and differs in which escapes it knows and in what it says.
-/

namespace TrafficShaping.Program

namespace Utility

/-! ## Escapes -/

/-- Which escapes are known: octal digits behind a zero that does not count, octal digits, hexadecimal
digits, numbers of characters, the end of all output, and a quote. If digits are needed an escape for them
without any is wrong; otherwise it stands for itself. A backslash that starts no escape can stand for itself
alone or together with what follows it. -/
structure Escapes where
  octalAfterZero : Bool := false
  octal : Bool := false
  hex : Bool := false
  unicode : Bool := false
  stop : Bool := false
  quote : Bool := false
  needsDigits : Bool := false
  isAlone : Bool := false

/-- Why a text ends at an escape: because that says so, or because it is wrong. -/
inductive Ending where
  | stop
  | noDigits
  | badName (s : String)
deriving DecidableEq

/-- What a character after a backslash stands for. -/
def control? : Char → Option Char
  | 'a' => some '\x07'
  | 'b' => some '\x08'
  | 'e' => some '\x1b'
  | 'f' => some '\x0c'
  | 'n' => some '\n'
  | 'r' => some '\r'
  | 't' => some '\t'
  | 'v' => some '\x0b'
  | '\\' => some '\\'
  | _ => none

/-- The byte that up to so many digits stand for, and how many there are. -/
def byteOf (base most : Nat) (cs : List Char) : Char × Nat :=
  let ds := ((cs.take most).takeWhile fun c => (digitOf? base c).isSome).filterMap (digitOf? base)
  (Char.ofNat (ds.foldl (fun n d => base * n + d) 0 % 256), ds.length)

/-- The number of a character in hexadecimal digits, where only characters of one byte can be written. -/
def characterOf (mark : Char) (width : Nat) (cs : List Char) : Except Ending (List Char × Nat) :=
  let ds := ((cs.take width).takeWhile fun c => (digitOf? 16 c).isSome).filterMap (digitOf? 16)
  let n := ds.foldl (fun n d => 16 * n + d) 0
  let named (mark : Char) (width : Nat) (digits : List Char) : List Char :=
    '\\' :: mark :: (padded width '0' (String.ofList digits)).toList
  let digits := Nat.toDigits 16 n
  if ds.length < width then .error .noDigits
  else if (n < 0xa0 ∧ n ∉ [0x24, 0x40, 0x60]) ∨ (0xd800 ≤ n ∧ n < 0xe000) then
    .error (.badName (String.ofList (named mark width digits)))
  else if n < 128 then .ok ([Char.ofNat n], width + 1)
  else
    let digits := digits.map Char.toUpper
    .ok (if n < 0x10000 then named 'u' 4 digits else named 'U' 8 digits, width + 1)

/-- What follows a backslash: what it stands for and how many characters it takes, or why the text ends. -/
def escape (e : Escapes) (cs : List Char) : Except Ending (List Char × Nat) :=
  match cs with
  | [] => .ok (['\\'], 0)
  | c :: rest =>
    if c = 'c' && e.stop then .error .stop
    else match control? c with
      | some b => .ok ([b], 1)
      | none =>
        if c = '\"' && e.quote then .ok (['\"'], 1)
        else if c = '0' && e.octalAfterZero then
          let (b, n) := byteOf 8 3 rest
          .ok ([b], n + 1)
        else if e.octal && (digitOf? 8 c).isSome then
          let (b, n) := byteOf 8 3 cs
          .ok ([b], n)
        else if c = 'x' && e.hex && ((rest.head?.bind (digitOf? 16)).isSome) then
          let (b, n) := byteOf 16 2 rest
          .ok ([b], n + 1)
        else if c = 'x' && e.hex && e.needsDigits then .error .noDigits
        else if c = 'u' && e.unicode then characterOf c 4 rest
        else if c = 'U' && e.unicode then characterOf c 8 rest
        else if e.isAlone then .ok (['\\'], 0)
        else .ok (['\\', c], 1)

/-- A text with its escapes replaced, and whether it ends at one of them. Every step takes a character. -/
def unescape (e : Escapes) : Nat → List Char → List Char × Option Ending
  | 0, _ => ([], none)
  | _ + 1, [] => ([], none)
  | n + 1, c :: cs =>
    if c = '\\' then
      match escape e cs with
      | .error ending => ([], some ending)
      | .ok (out, taken) =>
        let (rest, ending) := unescape e n (cs.drop taken)
        (out ++ rest, ending)
    else
      let (rest, ending) := unescape e n cs
      (c :: rest, ending)

def unescaped (e : Escapes) (s : String) : String × Option Ending :=
  let (cs, ending) := unescape e (s.length + 1) s.toList
  (String.ofList cs, ending)

/-! ## Values -/

/-- How one value is written. -/
structure Directive where
  left : Bool := false
  plus : Bool := false
  space : Bool := false
  alternate : Bool := false
  zeros : Bool := false
  width : Nat := 0
  precision : Option Nat := none
  conversion : Char := 's'

/-- What is wrong with a value that should be a number. -/
inductive Misread where
  | noNumber
  | notWhole
  | outOfRange
  | moreThanOne
deriving DecidableEq

/-- The number of the character that a value names behind a quote, if it does. -/
def characterNumber? (s : String) : Option (Nat × Option Misread) :=
  match s.toList with
  | '\'' :: c :: cs | '\"' :: c :: cs => some (c.toNat, if cs = [] then none else some .moreThanOne)
  | _ => none

/-- A value as an integer between two bounds. A quote in front asks for the number of a character. -/
def integerOf (low high : Int) (s : String) : Int × Option Misread :=
  match characterNumber? s with
  | some (n, wrong) => (n, wrong)
  | none =>
    if s = "" then (0, none)
    else
      let cs := s.toList.dropWhile fun c => c = ' ' || 9 ≤ c.toNat && c.toNat ≤ 13
      let (negative, cs) := match cs with
        | '-' :: cs => (true, cs)
        | '+' :: cs => (false, cs)
        | cs => (false, cs)
      let (base, ds) := match cs with
        | '0' :: x :: d :: rest =>
          if (x = 'x' ∨ x = 'X') ∧ (digitOf? 16 d).isSome then (16, d :: rest) else (8, cs)
        | '0' :: _ => (8, cs)
        | cs => (10, cs)
      let digits := ds.takeWhile fun c => (digitOf? base c).isSome
      if digits = [] then (0, some .noNumber)
      else
        let magnitude := (digits.filterMap (digitOf? base)).foldl (fun n d => base * n + d) 0
        let n : Int := if negative then -magnitude else magnitude
        let clamped := max low (min high n)
        if clamped ≠ n then (clamped, some .outOfRange)
        else (n, if digits.length < ds.length then some .notWhole else none)

/-- A value as a number with a fraction. A quote in front asks for the number of a character. -/
def floatingOf (p : Precision) (s : String) : Floating × Option Misread :=
  match characterNumber? s with
  | some (n, wrong) => ((Floating.round p false n 1).1, wrong)
  | none =>
    if s = "" then (.zero false, none)
    else match Floating.read? p s.toList with
      | none => (.zero false, some .noNumber)
      | some r =>
        (r.value, if !r.isInRange then some .outOfRange else if r.rest = [] then none else some .notWhole)

/-- A number brought to its width, its sign in front of the zeros. -/
def Directive.number (d : Directive) (zeros : Bool) (sign digits : String) : String :=
  let missing := d.width - sign.length - digits.length
  if d.left then sign ++ digits ++ "".pushn ' ' missing
  else if zeros then sign ++ "".pushn '0' missing ++ digits
  else "".pushn ' ' missing ++ sign ++ digits

def Directive.text (d : Directive) (s : String) : String :=
  let s := match d.precision with
    | some p => String.ofList (s.toList.take p)
    | none => s
  if d.left then s ++ "".pushn ' ' (d.width - s.length) else padded d.width ' ' s

/-- The sign of a number that may have one. -/
def Directive.sign (d : Directive) (negative : Bool) : String :=
  if negative then "-" else if d.plus then "+" else if d.space then " " else ""

def upperCase (s : String) : String := s.map Char.toUpper

/-- A value as a directive wants it, and what is wrong with it. -/
def Directive.write (precision : Precision) (d : Directive) (s : String) : String × Option Misread :=
  let inBase (base : Nat) (mark : String) : String × Option Misread :=
    let (n, wrong) := integerOf (1 - Nat.pow 2 64) (Nat.pow 2 64 - 1) s
    let v := if wrong = some .outOfRange then Nat.pow 2 64 - 1 else (n % Nat.pow 2 64).toNat
    let digits := String.ofList (Nat.toDigits base v)
    let digits :=
      if d.precision = some 0 ∧ v = 0 then (if d.alternate && base = 8 then "0" else "")
      else padded (d.precision.getD 1) '0' digits
    let mark := if !d.alternate || v = 0 then "" else mark
    let digits := if mark = "0" && digits.startsWith "0" then digits else if mark = "0" then "0" ++ digits else digits
    (d.number (d.zeros && d.precision.isNone) (if mark = "0" then "" else mark) digits, wrong)
  match d.conversion with
  | 'd' | 'i' =>
    let (n, wrong) := integerOf (-Nat.pow 2 63) (Nat.pow 2 63 - 1) s
    let digits :=
      if d.precision = some 0 ∧ n = 0 then ""
      else padded (d.precision.getD 1) '0' (Number.naturalText n.natAbs)
    (d.number (d.zeros && d.precision.isNone) (d.sign (n < 0)) digits, wrong)
  | 'u' => inBase 10 ""
  | 'o' => inBase 8 "0"
  | 'x' => inBase 16 "0x"
  | 'X' => let (t, wrong) := inBase 16 "0x"; (upperCase t, wrong)
  | 'c' => ({ d with precision := none }.text (String.ofList [s.toList.head?.getD '\x00']), none)
  | 's' => (d.text s, none)
  | conversion =>
    let (x, wrong) := floatingOf precision s
    let (mark, digits) := x.text precision conversion.toLower d.alternate d.precision
    let t := d.number (d.zeros && x.isFinite) (d.sign x.isNegative ++ mark) digits
    (if conversion.isUpper then upperCase t else t, wrong)

/-! ## Formats -/

/-- What of `printf` is its caller's: the escapes in a format and in a value, and what is said. -/
structure Dialect where
  inFormat : Escapes
  inValue : Escapes
  complaint : String → String
  noNumber : String → Option String
  notWhole : String → String
  outOfRange : String → String
  /-- What is said of characters behind the one that a value names, if that is a mistake at all. -/
  moreThanOne : String → Option String := fun _ => none
  /-- What is said of a value that is too large for a width or a precision, if that is a mistake at all. -/
  tooWide : Option (String → String → String) := none
  /-- What is said of values that are left, if that is a mistake at all. -/
  excess : Option (String → String) := none
  /-- What is said when a value cannot be written. -/
  failed : String
  noConversion : String → String
  badDirective : String → String
  flags : String := "-+ #0"
  /-- Whether a directive with flags, and perhaps a precision, may have a conversion. -/
  allows : List Char → Bool → Char → Bool := fun _ _ _ => true
  /-- The conversions that may only stand alone. -/
  bare : String := ""
  /-- Letters for the size of a number, which make no difference. -/
  sizes : String := ""
  /-- The code where all output ends at an escape, if that is not the code so far. -/
  stopCode : Option Nat := none
  /-- The code for a format that is wrong. -/
  code : Nat := 1
  precision : Precision := .double

/-- What has been written, which values are left, and what was wrong. -/
structure Printing where
  out : List String := []
  values : List String := []
  hasTaken : Bool := false
  complaints : List String := []
  stops : Bool := false
  code : Nat := 0

namespace Printing

def say (p : Printing) (s : String) : Printing := { p with out := s :: p.out }

def next (p : Printing) : Option String × Printing :=
  match p.values with
  | [] => (none, p)
  | v :: vs => (some v, { p with values := vs, hasTaken := true })

/-- Complains about a value. -/
def blame (p : Printing) (complaint : String) : Printing :=
  { p with complaints := complaint :: p.complaints, code := 1 }

/-- Complains about a format, and stops. -/
def giveUp (p : Printing) (code : Nat) (complaint : String) : Printing :=
  { p with complaints := complaint :: p.complaints, code, stops := true }

/-- Stops at the end of a text. -/
def endAt (p : Printing) (dialect : Dialect) : Option Ending → Printing
  | none => p
  | some .stop => { p with stops := true, code := dialect.stopCode.getD p.code }
  | some .noDigits => p.giveUp dialect.code "missing hexadecimal number in escape"
  | some (.badName s) => p.giveUp dialect.code ("invalid universal character name " ++ s)

/-- Complains about a value that was not read as it should be. -/
def judge (p : Printing) (dialect : Dialect) (v : String) : Option Misread → Printing
  | none => p
  | some .noNumber => (dialect.noNumber v).elim p p.blame
  | some .notWhole => p.blame (dialect.notWhole v)
  | some .outOfRange => p.blame (dialect.outOfRange v)
  | some .moreThanOne =>
    match dialect.moreThanOne (v.drop 2).toString with
    | none => p
    | some complaint => { p with complaints := complaint :: p.complaints }

end Printing

/-- A number in a directive: digits, or a star for the next value. It has 32 bits with the sign. -/
def countOf (dialect : Dialect) (what : String) (p : Printing) (cs : List Char) : Option Int × Printing × List Char :=
  match cs with
  | '*' :: cs =>
    let (v, p) := p.next
    let v := v.getD ""
    let (n, wrong) := integerOf (-Nat.pow 2 63) (Nat.pow 2 63 - 1) v
    let p := p.judge dialect v wrong
    let fitting := n.bmod (Nat.pow 2 32)
    match dialect.tooWide with
    | some complaint =>
      if fitting = n ∨ what = "precision" ∧ n < 0 then (some n, p, cs)
      else (some 0, p.giveUp dialect.code (complaint what v), cs)
    | none => (some fitting, p, cs)
  | cs =>
    let ds := cs.takeWhile Char.isDigit
    let n := Number.natural? ds
    let isTooMuch := n.any fun n => Nat.pow 2 31 - 1 ≤ n
    (n.map fun n => (n : Int), if isTooMuch then p.giveUp dialect.code dialect.failed else p, cs.drop ds.length)

/-- Writes one value by the directive that a text starts with, and gives how much is left of the text. -/
def direct (dialect : Dialect) (p : Printing) (cs : List Char) : Printing × List Char :=
  let flags := cs.takeWhile dialect.flags.toList.contains
  let (width, p, rest) := countOf dialect "field width" p (cs.drop flags.length)
  let (precision, p, rest) := match rest with
    | '.' :: rest =>
      let (n, p, rest) := countOf dialect "precision" p rest
      (some (n.getD 0), p, rest)
    | rest => (none, p, rest)
  let d : Directive := {
    left := flags.contains '-' || width.any (· < 0)
    plus := flags.contains '+'
    space := flags.contains ' '
    alternate := flags.contains '#'
    zeros := flags.contains '0'
    width := (width.getD 0).natAbs
    precision := precision.bind fun n => if n < 0 then none else some n.toNat }
  if p.stops then (p, [])
  else match rest.dropWhile dialect.sizes.toList.contains with
  | [] => (p.giveUp dialect.code (dialect.noConversion ("%" ++ String.ofList cs)), [])
  | c :: after =>
    let isBare := dialect.bare.toList.contains c && cs.head? = some c
    if isBare && c = 'q' then
      let (v, p) := p.next
      (p.say (v.elim "" shellWord), after)
    else if c = 'b' && (isBare || dialect.bare = "") then
      let (v, p) := p.next
      let (s, ending) := unescaped dialect.inValue (v.getD "")
      ((p.say (d.text s)).endAt dialect ending, after)
    else if "diouxXcsfFeEgGaA".toList.contains c && dialect.allows flags precision.isSome c then
      let (v, p) := p.next
      let v := v.getD ""
      let (s, wrong) := { d with conversion := c }.write dialect.precision v
      ((p.judge dialect v wrong).say s, after)
    else
      let directive := String.ofList (cs.take (cs.length - after.length))
      (p.giveUp dialect.code (dialect.badDirective ("%" ++ directive)), [])

/-- Goes through a format once. Every step takes a character. -/
def formatOnce (dialect : Dialect) : Nat → List Char → Printing → Printing
  | 0, _, p => p
  | _ + 1, [], p => p
  | n + 1, '%' :: '%' :: cs, p => formatOnce dialect n cs (p.say "%")
  | n + 1, '%' :: cs, p =>
    let (p, cs) := direct dialect p cs
    if p.stops then p else formatOnce dialect n cs p
  | n + 1, '\\' :: cs, p =>
    match escape dialect.inFormat cs with
    | .error ending => p.endAt dialect (some ending)
    | .ok (out, taken) => formatOnce dialect n (cs.drop taken) (p.say (String.ofList out))
  | n + 1, cs, p =>
    let plain := cs.takeWhile fun c => c ≠ '%' && c ≠ '\\'
    formatOnce dialect n (cs.drop plain.length) (p.say (String.ofList plain))

/-- Goes through a format as often as there are values for it. -/
def formatAll (dialect : Dialect) (format : List Char) : Nat → Printing → Printing
  | 0, p => p
  | n + 1, p =>
    let p := formatOnce dialect (format.length + 1) format { p with hasTaken := false }
    if p.stops || p.values = [] || !p.hasTaken then p else formatAll dialect format n p

/-- Writes values by a format. -/
def printfBy (dialect : Dialect) (format : String) (values : List String) : Result :=
  let p := formatAll dialect format.toList (values.length + 1) { values }
  let p := match p.stops, p.values, dialect.excess with
    | false, v :: _, some complaint => { p with complaints := complaint v :: p.complaints }
    | _, _, _ => p
  { code := p.code
    out := String.join p.out.reverse
    err := lines (p.complaints.reverse.map dialect.complaint) }

/-- The dialect of the program. -/
def programDialect : Dialect where
  inFormat := { octal := true, hex := true, unicode := true, stop := true, quote := true, needsDigits := true }
  inValue := {
    octalAfterZero := true
    octal := true
    hex := true
    unicode := true
    stop := true
    quote := true
    needsDigits := true }
  complaint s := "printf: " ++ s
  noNumber v := some (quoted v ++ ": expected a numeric value")
  notWhole v := quoted v ++ ": value not completely converted"
  outOfRange v := quoted v ++ ": Numerical result out of range"
  moreThanOne s := some ("warning: " ++ s ++ ": character(s) following character constant have been ignored")
  tooWide := some fun what v => "invalid " ++ what ++ ": " ++ quoted v
  excess := some fun v => "warning: ignoring excess arguments, starting with " ++ quoted v
  failed := "write error"
  noConversion s := s ++ ": invalid conversion specification"
  badDirective s := s ++ ": invalid conversion specification"
  flags := "-+ #0I'"
  allows flags isCut c :=
    let refuses (marks conversions : String) : Bool := flags.any marks.toList.contains && conversions.toList.contains c
    !(refuses "I'" "aAceEosxX" || refuses "#" "cdisu" || refuses "0" "cs" || isCut && c = 'c')
  bare := "bq"
  stopCode := some 0
  sizes := "hlLjtz"
  precision := .extended

/-- The dialect of a shell that speaks of itself in a certain way. -/
def shellDialect (complaint : String → String) : Dialect where
  inFormat := { octal := true, isAlone := true }
  inValue := { octalAfterZero := true, octal := true, stop := true, isAlone := true }
  complaint := complaint
  noNumber v := if v = "'" ∨ v = "\"" then none else some (v ++ ": expected numeric value")
  notWhole v := v ++ ": not completely converted"
  outOfRange v := v ++ ": Numerical result out of range"
  failed := "xvsnprintf failed"
  noConversion _ := "missing format character"
  badDirective s := s ++ ": invalid directive"
  code := 2

def printf : Utility := fun c =>
  match (if c.arguments.head? = some "--" then c.arguments.tail else c.arguments) with
  | [] => misused "printf" 1 "missing operand"
  | format :: values => printfBy programDialect format values

/-! ## Echoing -/

/-- A line of words with escapes, and whether its end is written. -/
def echoed (e : Option Escapes) (ends : Bool) (words : List String) : String :=
  let line := Text.joinWith " " words
  match e with
  | none => line ++ (if ends then "\n" else "")
  | some e =>
    let (s, ending) := unescaped e line
    s ++ (if ends && ending.isNone then "\n" else "")

/-- Takes the options of the program off: words of the letters `n`, `e` and `E`. -/
def echoOptions : Bool → Bool → List String → Bool × Bool × List String
  | ends, escapes, w :: ws =>
    match w.toList with
    | '-' :: c :: cs =>
      if (c :: cs).all fun c => "neE".toList.contains c then
        let escapes := ((c :: cs).filter (· ≠ 'n')).getLast?.elim escapes (· == 'e')
        echoOptions (ends && !(c :: cs).contains 'n') escapes ws
      else (ends, escapes, w :: ws)
    | _ => (ends, escapes, w :: ws)
  | ends, escapes, [] => (ends, escapes, [])

def echo : Utility := fun c =>
  let (ends, escapes, words) := echoOptions true false c.arguments
  let dialect? := if escapes then some { octalAfterZero := true, octal := true, hex := true, stop := true } else none
  writing (echoed dialect? ends words)

end Utility

end TrafficShaping.Program
