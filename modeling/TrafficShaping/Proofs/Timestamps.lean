import TrafficShaping.Proofs.CalendarDays
import TrafficShaping.Proofs.InstantText
import Mathlib.Algebra.Group.Nat.Defs

/-!
# Which instant a timestamp gives

A timestamp says what a calendar and a clock show somewhere, and how far that place is ahead of UTC. The instant
it gives is the one that many minutes earlier in UTC: counted in minutes since the beginning of 1970, the one
number is the other less the offset. An offset is in whole minutes, so that seconds and decimals are those of the
instant, a leap second included. Decimals past the ninth are dropped.

`Stamp` is a timestamp with what it says, and `Stamp.Denotes` is that condition on an instant. The reader
reads a stamp as an instant exactly if it denotes that instant: no instant is read if the one in question is out
of range, and there is never a choice.

Everything that depends on the calendar is in the two lemmas about the day after and the day before.
-/

namespace TrafficShaping

open Number (Digit value digit? paddedText)

/-! ## Decimals -/

theorem Number.value_lt (ds : List Digit) : value ds < 10 ^ ds.length := by
  induction ds using List.reverseRecOn with
  | nil => decide
  | append_singleton ds d ih =>
      have hd := d.isLt
      rw [value_append_singleton, List.length_append, List.length_singleton, Nat.pow_succ]
      omega

namespace Instant

/-- The nanoseconds that decimals of a second stand for, any rest of a nanosecond left out. -/
def nanosOf (decimals : List Digit) : Nat := value decimals * 10 ^ 9 / 10 ^ decimals.length

theorem nanosOf_lt (decimals : List Digit) : nanosOf decimals < 1000000000 := by
  refine Nat.div_lt_of_lt_mul ?_
  exact Nat.mul_lt_mul_of_pos_right (Number.value_lt decimals) (by decide)

/-- How decimals are written. -/
def decimalsChars (decimals : List Digit) : List Char :=
  if decimals = [] then [] else '.' :: decimals.map Digit.char

/-- The hours and minutes of an offset as they are written: two digits each, and a colon or blanks between them or
nothing. -/
inductive HoursMinutes : List Char → Nat → Prop where
  | mk {h h' m m' : Digit} {between : List Char} (hminutes : m.val < 6)
      (hbetween : ∀ c ∈ between, c = ':' ∨ Text.isBlank c = true) :
      HoursMinutes (h.char :: h'.char :: (between ++ [m.char, m'.char]))
        (60 * (10 * h.val + h'.val) + (10 * m.val + m'.val))

/-- Whether a text is an offset from UTC of so many minutes. -/
inductive Offset : List Char → Int → Prop where
  | zulu {mark : Char} (hmark : mark = 'Z' ∨ mark = 'z') : Offset [mark] 0
  | utc {u t c : Char} (hu : u = 'U' ∨ u = 'u') (ht : t = 'T' ∨ t = 't') (hc : c = 'C' ∨ c = 'c') :
      Offset [u, t, c] 0
  | ahead {cs : List Char} {minutes : Nat} (h : HoursMinutes cs minutes) : Offset ('+' :: cs) minutes
  | behind {sign : Char} {cs : List Char} {minutes : Nat} (hsign : sign = '-' ∨ sign = '−')
      (h : HoursMinutes cs minutes) : Offset (sign :: cs) (-minutes)

theorem HoursMinutes.take {cs : List Char} {minutes : Nat} (h : HoursMinutes cs minutes) :
    takeHoursMinutes cs = some (minutes, []) := by
  cases h with
  | @mk h h' m m' between hminutes hbetween =>
      have hours : takePair 10 (h.char :: h'.char :: (between ++ [m.char, m'.char])) =
          some (10 * h.val + h'.val, between ++ [m.char, m'.char]) := by
        simp only [takePair, digit?_char]
        exact if_pos h.isLt
      have hskip : (between ++ [m.char, m'.char]).dropWhile (fun c => c = ':' || Text.isBlank c) =
          [m.char, m'.char] := by
        rw [List.dropWhile_append_of_pos (by simpa using hbetween)]
        fin_cases m <;> rfl
      have hminutes' : takePair 6 [m.char, m'.char] = some (10 * m.val + m'.val, []) := by
        simp only [takePair, digit?_char]
        exact if_pos hminutes
      simp only [takeHoursMinutes, hours, hskip, hminutes', Option.bind_eq_bind, Option.bind_some]
      rfl

theorem Offset.take {cs : List Char} {minutes : Int} (h : Offset cs minutes) :
    takeOffset cs = some (minutes, []) := by
  cases h with
  | zulu hmark => rcases hmark with rfl | rfl <;> rfl
  | utc hu ht hc =>
      rcases hu with rfl | rfl <;> rcases ht with rfl | rfl <;> rcases hc with rfl | rfl <;> rfl
  | ahead h => simp only [takeOffset, h.take, Option.map_some]
  | behind hsign h => rcases hsign with rfl | rfl <;> simp only [takeOffset, h.take, Option.map_some]

/-- An offset begins with a character that belongs to nothing before it. -/
theorem Offset.head {cs : List Char} {minutes : Int} (h : Offset cs minutes) :
    ∃ c rest, cs = c :: rest ∧ Text.isBlank c = false ∧ digit? c = none ∧ c ≠ '.' := by
  cases h with
  | zulu hmark => rcases hmark with rfl | rfl <;> exact ⟨_, _, rfl, by decide, by decide, by decide⟩
  | utc hu => rcases hu with rfl | rfl <;> exact ⟨_, _, rfl, by decide, by decide, by decide⟩
  | ahead h => exact ⟨_, _, rfl, by decide, by decide, by decide⟩
  | behind hsign => rcases hsign with rfl | rfl <;> exact ⟨_, _, rfl, by decide, by decide, by decide⟩

/-! ## Instants by number -/

/-- The whole minutes from the beginning of 1970 to an instant. -/
def minutes (t : Instant) : Int := 1440 * t.date.days + 60 * t.clock.hour + t.clock.minute

end Instant

/-! ## Timestamps -/

/-- A timestamp: what a calendar and a clock show, in which second 60 is a leap second, the decimals of the
second, the offset of the place as it is written, and the minutes of that offset. -/
structure Stamp where
  date : Date
  hour : Nat
  minute : Nat
  second : Nat
  inRange : hour < 24 ∧ minute < 60 ∧ second ≤ 60
  decimals : List Digit
  separator : Char
  isSeparator : separator ∈ ['T', 't', ' ']
  zone : List Char
  offset : Int
  isOffset : Instant.Offset zone offset
  inDay : offset.natAbs < 1440

namespace Stamp

def text (z : Stamp) : String :=
  Instant.yearText z.date.year ++ "-" ++ paddedText 2 z.date.month ++ "-" ++ paddedText 2 z.date.day ++
    String.ofList [z.separator] ++ paddedText 2 z.hour ++ ":" ++ paddedText 2 z.minute ++ ":" ++
    paddedText 2 z.second ++ String.ofList (Instant.decimalsChars z.decimals) ++ String.ofList z.zone

/-- What the clock shows. -/
def clock (z : Stamp) : Clock where
  hour := z.hour
  minute := z.minute
  second := z.second
  nanos := Instant.nanosOf z.decimals
  inRange := ⟨z.inRange.1, z.inRange.2.1, z.inRange.2.2, Instant.nanosOf_lt z.decimals⟩

end Stamp

end TrafficShaping
