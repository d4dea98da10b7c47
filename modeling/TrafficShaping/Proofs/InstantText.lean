import TrafficShaping.Instant
import Mathlib.Data.Fintype.Basic
import Mathlib.Tactic.FinCases

/-!
# Instants as texts and back

The text of an instant reads as that instant. Each part of the reader takes off the front of the text what the
writer put there, so the proof is one lemma for each part, said of the part with whatever follows it. What
follows matters in two places only, the year with a sign and the decimals, where the number of digits is open
and the next character has to be no digit.

Nothing is special about a leap second: it is second 60 on both sides. With the offset zero a local time is
the time in UTC, whatever its date.
-/

namespace TrafficShaping.Instant

open Number (Digit digits value paddedText digit? digits_ne_nil)

/-! ## Digits -/

theorem digit?_char (d : Digit) : digit? d.char = some d := by
  fin_cases d <;> rfl

theorem skipBlanks_char (d : Digit) (cs : List Char) : skipBlanks (d.char :: cs) = d.char :: cs := by
  fin_cases d <;> rfl

theorem value_replicate_append {zero : Digit} (hzero : zero.val = 0) (count : Nat) (ds : List Digit) :
    value (List.replicate count zero ++ ds) = value ds := by
  induction count with
  | zero => rfl
  | succ count ih =>
      rw [List.replicate_succ, List.cons_append, value, List.foldl_cons, hzero]
      exact ih

theorem length_digits_le {n width : Nat} (hn : n < Nat.pow 10 width) (hwidth : 0 < width) :
    (digits n).length ≤ width := by
  induction width generalizing n with
  | zero => exact absurd hwidth (Nat.lt_irrefl 0)
  | succ width ih =>
      rw [digits]
      split
      · exact Nat.succ_le_succ (Nat.zero_le width)
      · next hten =>
          have hpos : 0 < width := by
            cases width with
            | zero => exact absurd hn hten
            | succ width => exact Nat.succ_pos width
          have hdiv : n / 10 < Nat.pow 10 width := Nat.div_lt_of_lt_mul (by rwa [Nat.mul_comm])
          rw [List.length_append]
          exact Nat.succ_le_succ (ih hdiv hpos)

/-- A padded number is one digit and more digits, whose value is the number. -/
theorem paddedText_digits (width n : Nat) :
    ∃ d ds, (paddedText width n).toList = (d :: ds).map Digit.char ∧ value (d :: ds) = n := by
  obtain ⟨zero, hzero, hchar⟩ : ∃ zero : Digit, zero.val = 0 ∧ zero.char = '0' := ⟨0, rfl, rfl⟩
  obtain ⟨d, ds, hdigits⟩ := List.exists_cons_of_ne_nil
    (List.append_ne_nil_of_right_ne_nil (List.replicate (width - (digits n).length) zero) (digits_ne_nil n))
  refine ⟨d, ds, ?_, ?_⟩
  · rw [← hdigits, paddedText, String.toList_ofList, List.map_append, List.map_replicate, hchar,
      List.length_map]
  · rw [← hdigits, value_replicate_append hzero, Number.value_digits]

theorem length_paddedText {n width : Nat} (hn : n < Nat.pow 10 width) (hwidth : 0 < width) :
    (paddedText width n).toList.length = width := by
  rw [paddedText, String.toList_ofList, List.length_append, List.length_replicate, List.length_map]
  exact Nat.sub_add_cancel (length_digits_le hn hwidth)

theorem spanDigits_map_char {most : Nat} {ds : List Digit} {rest : List Char} (hlength : ds.length ≤ most)
    (hrest : ds.length = most ∨ ∀ c ∈ rest.head?, digit? c = none) :
    spanDigits most (ds.map Digit.char ++ rest) = (ds, rest) := by
  induction most generalizing ds with
  | zero =>
      obtain rfl := List.length_eq_zero_iff.mp (Nat.le_zero.mp hlength)
      rfl
  | succ most ih =>
      cases ds with
      | nil =>
          have hnone : ∀ c ∈ rest.head?, digit? c = none := by
            rcases hrest with h | h
            · cases h
            · exact h
          cases rest with
          | nil => rfl
          | cons c rest =>
              show spanDigits (most + 1) (c :: rest) = _
              rw [spanDigits, hnone c rfl]
      | cons d ds =>
          rw [List.map_cons, List.cons_append, spanDigits, digit?_char]
          dsimp only
          rw [ih (Nat.le_of_succ_le_succ hlength) (hrest.imp Nat.succ.inj id)]

/-! ## The parts of a text -/

theorem takeNumber_padded {most width n : Nat} {rest : List Char}
    (hlength : (paddedText width n).toList.length ≤ most)
    (hrest : (paddedText width n).toList.length = most ∨ ∀ c ∈ rest.head?, digit? c = none) :
    takeNumber most ((paddedText width n).toList ++ rest) = some (n, rest) := by
  obtain ⟨d, ds, htext, hvalue⟩ := paddedText_digits width n
  rw [htext, List.length_map] at hlength hrest
  rw [takeNumber, htext, spanDigits_map_char hlength hrest]
  show some (value (d :: ds), rest) = _
  rw [hvalue]

theorem skipBlanks_padded (width n : Nat) (rest : List Char) :
    skipBlanks ((paddedText width n).toList ++ rest) = (paddedText width n).toList ++ rest := by
  obtain ⟨d, ds, htext, _⟩ := paddedText_digits width n
  rw [htext]
  exact skipBlanks_char d _

/-- A month, a day, an hour, a minute or a second. -/
theorem takeField_two {n : Nat} (hn : n < 100) (rest : List Char) :
    takeField 2 ((paddedText 2 n).toList ++ rest) = some (n, rest) := by
  have hlength : (paddedText 2 n).toList.length = 2 := length_paddedText hn (by decide)
  rw [takeField, skipBlanks_padded]
  exact takeNumber_padded hlength.le (.inl hlength)

theorem takeYear_unsigned (d : Digit) (cs : List Char) :
    takeYear (d.char :: cs) = (takeNumber 4 (d.char :: cs)).map fun (n, rest) => ((n : Int), rest) := by
  fin_cases d <;> rfl

theorem takeYear_minus (cs : List Char) :
    takeYear ('-' :: cs) = (takeNumber cs.length cs).map fun (n, rest) => (-(n : Int), rest) := rfl

theorem takeYear_plus (cs : List Char) :
    takeYear ('+' :: cs) = (takeNumber cs.length cs).map fun (n, rest) => ((n : Int), rest) := rfl

theorem takeYear_yearText (year : Int) {rest : List Char} (hrest : ∀ c ∈ rest.head?, digit? c = none) :
    takeYear ((yearText year).toList ++ rest) = some (year, rest) := by
  have hsigned : takeNumber ((paddedText 4 year.natAbs).toList ++ rest).length
      ((paddedText 4 year.natAbs).toList ++ rest) = some (year.natAbs, rest) := by
    refine takeNumber_padded ?_ (.inr hrest)
    rw [List.length_append]
    exact Nat.le_add_right _ _
  have habs (h : 0 ≤ year) : some ((year.natAbs : Int), rest) = some (year, rest) := by
    rw [Int.natAbs_of_nonneg h]
  rw [yearText]
  split
  -- without a sign no more than four digits are read, so the year must have four
  · next h =>
      obtain ⟨d, ds, hdigits, _⟩ := paddedText_digits 4 year.natAbs
      have hfour : year.natAbs < 10000 := by omega
      have hlength : (paddedText 4 year.natAbs).toList.length = 4 := length_paddedText hfour (by decide)
      have hnumber : takeNumber 4 ((paddedText 4 year.natAbs).toList ++ rest) =
          some (year.natAbs, rest) := takeNumber_padded hlength.le (.inl hlength)
      rw [hdigits, List.map_cons, List.cons_append] at hnumber ⊢
      rw [takeYear_unsigned, hnumber]
      exact habs h.1
  · split
    · next hnegative =>
        have htext : ("-" ++ paddedText 4 year.natAbs).toList ++ rest =
            '-' :: ((paddedText 4 year.natAbs).toList ++ rest) := by simp
        rw [htext, takeYear_minus, hsigned]
        show some (-(year.natAbs : Int), rest) = _
        rw [Int.ofNat_natAbs_of_nonpos (Int.le_of_lt hnegative), Int.neg_neg]
    · next hpositive =>
        have htext : ("+" ++ paddedText 4 year.natAbs).toList ++ rest =
            '+' :: ((paddedText 4 year.natAbs).toList ++ rest) := by simp
        rw [htext, takeYear_plus, hsigned]
        exact habs (Int.not_lt.mp hpositive)

theorem takeDecimals_padded {width n : Nat} (hn : n < Nat.pow 10 width) (hwidth : 0 < width)
    (hmost : width ≤ 9) {rest : List Char} (hrest : ∀ c ∈ rest.head?, digit? c = none) :
    takeDecimals ('.' :: ((paddedText width n).toList ++ rest)) =
      some (n * Nat.pow 10 (9 - width), rest) := by
  obtain ⟨d, ds, htext, hvalue⟩ := paddedText_digits width n
  have hlength : (d :: ds).length = width := by
    rw [← length_paddedText hn hwidth, htext, List.length_map]
  rw [takeDecimals, htext, spanDigits_map_char (hlength.trans_le hmost) (.inr hrest)]
  show some (value (d :: ds) * Nat.pow 10 (9 - (d :: ds).length), rest.dropWhile _) = _
  rw [hvalue, hlength]
  cases rest with
  | nil => rfl
  | cons c rest => rw [List.dropWhile_cons_of_neg (by rw [hrest c rfl]; decide)]

theorem takeDecimals_decimalsText {nanos : Nat} (hnanos : nanos < 1000000000) :
    takeDecimals ((decimalsText nanos).toList ++ ['Z']) = some (nanos, ['Z']) := by
  have hend : ∀ c ∈ ['Z'].head?, digit? c = none := by
    rintro c ⟨⟩
    rfl
  rw [decimalsText]
  split
  · next h =>
      subst h
      rfl
  · rw [apply_ite String.toList, apply_ite String.toList, String.toList_append, String.toList_append,
      String.toList_append]
    split
    · next h =>
        have hsmall : nanos / 1000000 < 1000 := by omega
        have hvalue : nanos / 1000000 * 1000000 = nanos := by omega
        exact (takeDecimals_padded hsmall (by decide) (by decide) hend).trans
          (congrArg (fun k => some (k, ['Z'])) hvalue)
    · split
      · next h =>
          have hsmall : nanos / 1000 < 1000000 := by omega
          have hvalue : nanos / 1000 * 1000 = nanos := by omega
          exact (takeDecimals_padded hsmall (by decide) (by decide) hend).trans
            (congrArg (fun k => some (k, ['Z'])) hvalue)
      · exact (takeDecimals_padded hnanos (by decide) (by decide) hend).trans
          (congrArg (fun k => some (k, ['Z'])) (Nat.mul_one nanos))

/-! ## Instants -/

theorem of?_date (d : Date) : Date.of? d.year d.month d.day = some d := dif_pos d.isDate

theorem of?_clock (c : Clock) : Clock.of? c.hour c.minute c.second c.nanos = some c := dif_pos c.inRange

theorem ofLocal?_zero (date : Date) (clock : Clock) : ofLocal? date clock 0 = some ⟨date, clock⟩ := by
  obtain ⟨hhour, hminute, _⟩ := clock.inRange
  have hminutes : ((60 * (clock.hour : Int) + clock.minute - 0) % 1440).toNat =
      60 * clock.hour + clock.minute := by omega
  unfold ofLocal?
  dsimp only
  rw [if_neg (by omega), if_pos (by omega), hminutes,
    show (60 * clock.hour + clock.minute) / 60 = clock.hour by omega,
    show (60 * clock.hour + clock.minute) % 60 = clock.minute by omega, of?_clock]
  rfl

section

variable {date : Date} {clock : Clock} {offset : Int}
  {cs afterYear beforeMonth afterMonth beforeDay afterDay : List Char}
  {beforeHour afterHour beforeMinute afterMinute beforeSecond afterSecond afterDecimals : List Char}

/-- What the reader gives when each of its parts takes off what it should. -/
theorem readChars?_of_parts (hyear : takeYear cs = some (date.year, afterYear))
    (hdash : takeMark '-' afterYear = some beforeMonth)
    (hmonth : takeField 2 beforeMonth = some (date.month, afterMonth))
    (hdash' : takeMark '-' afterMonth = some beforeDay)
    (hday : takeField 2 beforeDay = some (date.day, afterDay))
    (hseparator : takeSeparator afterDay = some beforeHour)
    (hhour : takeField 2 beforeHour = some (clock.hour, afterHour))
    (hcolon : takeMark ':' afterHour = some beforeMinute)
    (hminute : takeField 2 beforeMinute = some (clock.minute, afterMinute))
    (hcolon' : takeMark ':' afterMinute = some beforeSecond)
    (hsecond : takeField 2 beforeSecond = some (clock.second, afterSecond))
    (hdecimals : takeDecimals afterSecond = some (clock.nanos, afterDecimals))
    (hoffset : takeOffset (skipBlanks afterDecimals) = some (offset, [])) :
    readChars? cs = ofLocal? date clock offset := by
  have hsome {α β : Type} (a : α) (f : α → Option β) : (some a >>= f) = f a := rfl
  simp only [readChars?, hyear, hdash, hmonth, hdash', hday, hseparator, hhour, hcolon, hminute, hcolon',
    hsecond, hdecimals, hoffset, of?_date, of?_clock, hsome]
  rfl

end

theorem daysInMonth_le (year : Int) (month : Nat) : daysInMonth year month ≤ 31 := by
  unfold daysInMonth
  split
  · split <;> decide
  · split <;> decide

/-- Reading undoes writing. -/
theorem read?_text (t : Instant) : read? t.text = some t := by
  obtain ⟨_, _, _, hmonth, _, hday⟩ := t.date.isDate
  obtain ⟨hhour, hminute, hsecond, hnanos⟩ := t.clock.inRange
  have hdays := daysInMonth_le t.date.year t.date.month
  have htext : t.text.toList =
      (yearText t.date.year).toList ++ '-' :: ((paddedText 2 t.date.month).toList ++
        '-' :: ((paddedText 2 t.date.day).toList ++ 'T' :: ((paddedText 2 t.clock.hour).toList ++
        ':' :: ((paddedText 2 t.clock.minute).toList ++ ':' :: ((paddedText 2 t.clock.second).toList ++
        ((decimalsText t.clock.nanos).toList ++ ['Z'])))))) := by
    simp [text]
  rw [read?, htext, readChars?_of_parts (takeYear_yearText _ fun c hc => by cases hc; rfl) rfl
    (takeField_two (by omega) _) rfl (takeField_two (by omega) _) rfl (takeField_two (by omega) _) rfl
    (takeField_two (by omega) _) rfl (takeField_two (by omega) _) (takeDecimals_decimalsText hnanos) rfl]
  exact ofLocal?_zero t.date t.clock

end TrafficShaping.Instant
