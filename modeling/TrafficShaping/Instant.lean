import TrafficShaping.Number.Decimal
import TrafficShaping.Text.Blank

/-!
# Instants

An instant is a date and a time of day in UTC, to the nanosecond. A leap second is second 60 of its minute.
Dates are those of the proleptic Gregorian calendar within a fixed range of years.

`Instant.text` writes an instant in the form of RFC 3339, with as many decimals as it needs in groups of
three and a signed year outside of four digits. `Instant.read?` is more liberal: any offset, blanks between
the parts, fields with fewer digits, and decimals past the ninth, which are dropped. An offset is less than
a day, so bringing an instant to UTC moves its date by one day at most.
-/

namespace TrafficShaping

open Number

def isLeapYear (year : Int) : Bool := year % 4 = 0 && (year % 100 ≠ 0 || year % 400 = 0)

def daysInMonth (year : Int) (month : Nat) : Nat :=
  if month = 2 then (if isLeapYear year then 29 else 28)
  else if month = 4 ∨ month = 6 ∨ month = 9 ∨ month = 11 then 30
  else 31

def firstYear : Int := -262143
def lastYear : Int := 262142

/-- Whether a year, a month and a day are a date in range. -/
def IsDate (year : Int) (month day : Nat) : Prop :=
  firstYear ≤ year ∧ year ≤ lastYear ∧ 1 ≤ month ∧ month ≤ 12 ∧ 1 ≤ day ∧
    day ≤ daysInMonth year month

instance (year : Int) (month day : Nat) : Decidable (IsDate year month day) := by
  unfold IsDate; infer_instance

structure Date where
  year : Int
  month : Nat
  day : Nat
  isDate : IsDate year month day
deriving DecidableEq

namespace Date

def of? (year : Int) (month day : Nat) : Option Date :=
  if h : IsDate year month day then some ⟨year, month, day, h⟩ else none

/-- The day after; none after the last one. -/
def next? (d : Date) : Option Date :=
  if d.day < daysInMonth d.year d.month then of? d.year d.month (d.day + 1)
  else if d.month < 12 then of? d.year (d.month + 1) 1
  else of? (d.year + 1) 1 1

/-- The day before; none before the first one. -/
def previous? (d : Date) : Option Date :=
  if 1 < d.day then of? d.year d.month (d.day - 1)
  else if 1 < d.month then of? d.year (d.month - 1) (daysInMonth d.year (d.month - 1))
  else of? (d.year - 1) 12 31

/-- The date a number of days after 1970-01-01. Years are counted from March, so that a leap day is the
last day of its year, and in cycles of 400. -/
def ofDays? (days : Int) : Option Date :=
  let z := days + 719468
  let cycle := z / 146097
  let dayOfCycle := z % 146097
  let yearOfCycle :=
    (dayOfCycle - dayOfCycle / 1460 + dayOfCycle / 36524 - dayOfCycle / 146096) / 365
  let dayOfYear := dayOfCycle - (365 * yearOfCycle + yearOfCycle / 4 - yearOfCycle / 100)
  let m := (5 * dayOfYear + 2) / 153
  let day := dayOfYear - (153 * m + 2) / 5 + 1
  let month := if m < 10 then m + 3 else m - 9
  let year := yearOfCycle + cycle * 400 + (if month ≤ 2 then 1 else 0)
  of? year month.toNat day.toNat

end Date

/-- A time of day. Second 60 is a leap second. -/
structure Clock where
  hour : Nat
  minute : Nat
  second : Nat
  nanos : Nat
  inRange : hour < 24 ∧ minute < 60 ∧ second ≤ 60 ∧ nanos < 1000000000
deriving DecidableEq

def Clock.of? (hour minute second nanos : Nat) : Option Clock :=
  if h : hour < 24 ∧ minute < 60 ∧ second ≤ 60 ∧ nanos < 1000000000 then
    some ⟨hour, minute, second, nanos, h⟩
  else none

structure Instant where
  date : Date
  clock : Clock
deriving DecidableEq

namespace Instant

/-- The instant a number of seconds after 1970-01-01 and some nanoseconds. From one thousand million on,
the nanoseconds are those of a leap second after the last second of a minute. -/
def ofUnix? (seconds : Int) (nanos : Nat) : Option Instant := do
  let date ← Date.ofDays? (seconds / 86400)
  let s := (seconds % 86400).toNat
  let (second, nanos) :=
    if nanos < 1000000000 then (s % 60, nanos)
    else if s % 60 = 59 then (60, nanos - 1000000000)
    else (61, 0)
  let clock ← Clock.of? (s / 3600) (s / 60 % 60) second nanos
  return ⟨date, clock⟩

/-! ## Writing -/

def yearText (year : Int) : String :=
  if 0 ≤ year ∧ year ≤ 9999 then paddedText 4 year.natAbs
  else (if year < 0 then "-" else "+") ++ paddedText 4 year.natAbs

/-- The decimals of a second in groups of three, the fewest that lose nothing. -/
def decimalsText (nanos : Nat) : String :=
  if nanos = 0 then ""
  else if nanos % 1000000 = 0 then "." ++ paddedText 3 (nanos / 1000000)
  else if nanos % 1000 = 0 then "." ++ paddedText 6 (nanos / 1000)
  else "." ++ paddedText 9 nanos

def text (t : Instant) : String :=
  yearText t.date.year ++ "-" ++ paddedText 2 t.date.month ++ "-" ++ paddedText 2 t.date.day ++ "T" ++
    paddedText 2 t.clock.hour ++ ":" ++ paddedText 2 t.clock.minute ++ ":" ++
    paddedText 2 t.clock.second ++ decimalsText t.clock.nanos ++ "Z"

/-! ## Reading

Every part of the reader takes what it reads off the front of a list of characters. -/

def skipBlanks (cs : List Char) : List Char := cs.dropWhile Text.isBlank

/-- The digits at the front of a list, at most so many of them, and the rest. -/
def spanDigits : Nat → List Char → List Digit × List Char
  | 0, cs => ([], cs)
  | _ + 1, [] => ([], [])
  | n + 1, c :: cs =>
    match digit? c with
    | some d => let (ds, rest) := spanDigits n cs; (d :: ds, rest)
    | none => ([], c :: cs)

/-- A number of at most so many digits, and at least one. -/
def takeNumber (most : Nat) (cs : List Char) : Option (Nat × List Char) :=
  match spanDigits most cs with
  | ([], _) => none
  | (ds, rest) => some (value ds, rest)

/-- A number after blanks. -/
def takeField (most : Nat) (cs : List Char) : Option (Nat × List Char) := takeNumber most (skipBlanks cs)

/-- A year after blanks: four digits at most, or any number of them after a sign. -/
def takeYear (cs : List Char) : Option (Int × List Char) :=
  match skipBlanks cs with
  | '-' :: cs => (takeNumber cs.length cs).map fun (n, rest) => (-(n : Int), rest)
  | '+' :: cs => (takeNumber cs.length cs).map fun (n, rest) => ((n : Int), rest)
  | cs => (takeNumber 4 cs).map fun (n, rest) => ((n : Int), rest)

/-- One character after blanks. -/
def takeMark (mark : Char) (cs : List Char) : Option (List Char) :=
  match skipBlanks cs with
  | c :: rest => if c = mark then some rest else none
  | [] => none

/-- The nanoseconds of a second, if there is a point. -/
def takeDecimals : List Char → Option (Nat × List Char)
  | '.' :: cs =>
    match spanDigits 9 cs with
    | ([], _) => none
    | (ds, rest) =>
      some (value ds * Nat.pow 10 (9 - ds.length), rest.dropWhile fun c => (digit? c).isSome)
  | cs => some (0, cs)

/-- Two digits, the first of them below a bound. -/
def takePair (bound : Nat) : List Char → Option (Nat × List Char)
  | a :: b :: rest =>
    match digit? a, digit? b with
    | some a, some b => if a.val < bound then some (10 * a.val + b.val, rest) else none
    | _, _ => none
  | _ => none

/-- The hours and minutes of an offset, in minutes. -/
def takeHoursMinutes (cs : List Char) : Option (Nat × List Char) := do
  let (hours, cs) ← takePair 10 cs
  let (minutes, cs) ← takePair 6 (cs.dropWhile fun c => c = ':' || Text.isBlank c)
  return (60 * hours + minutes, cs)

/-- An offset from UTC in minutes. The minus sign may be a hyphen or U+2212. -/
def takeOffset (cs : List Char) : Option (Int × List Char) :=
  match cs with
  | 'Z' :: rest | 'z' :: rest => some (0, rest)
  | '+' :: rest => (takeHoursMinutes rest).map fun (n, rest) => ((n : Int), rest)
  | '-' :: rest | '−' :: rest => (takeHoursMinutes rest).map fun (n, rest) => (-(n : Int), rest)
  | a :: b :: c :: rest =>
    if (a = 'U' || a = 'u') && (b = 'T' || b = 't') && (c = 'C' || c = 'c') then some (0, rest)
    else none
  | _ => none

/-- Moves a local time to UTC. -/
def ofLocal? (date : Date) (clock : Clock) (offset : Int) : Option Instant := do
  guard (offset.natAbs < 1440)
  let minutes : Int := 60 * clock.hour + clock.minute - offset
  let date ←
    if minutes < 0 then date.previous? else if minutes < 1440 then some date else date.next?
  let m := (minutes % 1440).toNat
  let clock ← Clock.of? (m / 60) (m % 60) clock.second clock.nanos
  return ⟨date, clock⟩

/-- The separator between date and time. -/
def takeSeparator : List Char → Option (List Char)
  | 'T' :: cs | 't' :: cs | ' ' :: cs => some cs
  | _ => none

def readChars? (cs : List Char) : Option Instant := do
  let (year, cs) ← takeYear cs
  let (month, cs) ← takeField 2 (← takeMark '-' cs)
  let (day, cs) ← takeField 2 (← takeMark '-' cs)
  let (hour, cs) ← takeField 2 (← takeSeparator cs)
  let (minute, cs) ← takeField 2 (← takeMark ':' cs)
  let (second, cs) ← takeField 2 (← takeMark ':' cs)
  let (nanos, cs) ← takeDecimals cs
  let (offset, cs) ← takeOffset (skipBlanks cs)
  guard (skipBlanks cs).isEmpty
  ofLocal? (← Date.of? year month day) (← Clock.of? hour minute second nanos) offset

/-- Reads an instant with its offset. -/
def read? (s : String) : Option Instant := readChars? s.toList

end Instant

end TrafficShaping
