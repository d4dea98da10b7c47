import TrafficShaping.Json.Fields
import TrafficShaping.Proofs.JsonTokens
import TrafficShaping.Proofs.Utf8Text

/-!
# Strings and numbers in JSON

A literal stands for a text if it goes through the characters of the text one by one, each of them as its bytes,
escaped by a letter, or escaped by its number, for which a character past U+FFFF needs two surrogates. Such a
literal decodes to the text. One of them is written, and always can be: what is escaped is exactly what could not
stand for itself.

Every integer and every double can be written as well. For a double that is a fact about the search for its
shortest decimal, which must not come back with a zero in front: the interval around a double that is not zero
lies above zero, so no grid offers the decimal zero.
-/

namespace TrafficShaping.Json

open TrafficShaping.Number (Digit Binary64 digits)

/-! ## Strings -/

/-- Past the ASCII characters, no byte of a character is an ASCII character. -/
theorem not_ascii_of_mem_utf8EncodeChar {c : Char} (hc : 128 ≤ c.toNat) {b : UInt8}
    (hb : b ∈ String.utf8EncodeChar c) : 128 ≤ b.toNat := by
  have hvalid := Text.Utf8.toNat_val_cases c
  have hc : 128 ≤ c.val.toNat := hc
  rw [String.utf8EncodeChar] at hb
  generalize c.val.toNat = n at hb hc hvalid
  rw [if_neg (by omega)] at hb
  split at hb
  · simp only [List.mem_cons, List.not_mem_nil, or_false] at hb
    rcases hb with rfl | rfl <;> rw [Text.Utf8.toNat_ofNat_of_lt (by omega)] <;> omega
  · split at hb
    · simp only [List.mem_cons, List.not_mem_nil, or_false] at hb
      rcases hb with rfl | rfl | rfl <;> rw [Text.Utf8.toNat_ofNat_of_lt (by omega)] <;> omega
    · simp only [List.mem_cons, List.not_mem_nil, or_false] at hb
      rcases hb with rfl | rfl | rfl | rfl <;> rw [Text.Utf8.toNat_ofNat_of_lt (by omega)] <;> omega

namespace Literal

/-- Whether these pieces are a way to write a character. -/
inductive StandsForChar : Literal → Char → Prop where
  | bytes {c : Char} : StandsForChar ((String.utf8EncodeChar c).map .byte) c
  | short {c : Char} (h : c.toNat < 0x80) : StandsForChar [.short (UInt8.ofNat c.toNat)] c
  | unit {c : Char} (h : c.toNat < 0x10000) : StandsForChar [.unit c.toNat] c
  | pair {c : Char} (h : 0x10000 ≤ c.toNat) : StandsForChar
      [.unit (0xd800 + (c.toNat - 0x10000) / 0x400), .unit (0xdc00 + (c.toNat - 0x10000) % 0x400)] c

/-- Whether a literal is a way to write these characters. -/
inductive StandsForChars : Literal → List Char → Prop where
  | nil : StandsForChars [] []
  | cons {ps l : Literal} {c : Char} {cs : List Char} (hc : StandsForChar ps c) (h : StandsForChars l cs) :
      StandsForChars (ps ++ l) (c :: cs)

def StandsFor (l : Literal) (s : String) : Prop := l.StandsForChars s.toList

theorem bytes?_bytes_append (bs : List UInt8) (l : Literal) :
    bytes? (bs.map .byte ++ l) = (bytes? l).map (bs ++ ·) := by
  induction bs with
  | nil => exact (Option.map_id' (x := bytes? l)).symm
  | cons b bs ih =>
      rw [List.map_cons, List.cons_append, bytes?, ih, Option.map_map]
      rfl

/-- An escape by code unit, where the code unit is a character by itself. -/
theorem bytes?_unit {code : Nat} (hlow : isLowSurrogate code = false)
    (hhigh : isHighSurrogate code = false) (l : Literal) :
    bytes? (.unit code :: l) = (bytes? l).map (String.utf8EncodeChar (Char.ofNat code) ++ ·) := by
  cases l with
  | nil => simp [bytes?, hlow, hhigh]
  | cons p l => cases p <;> simp [bytes?, hlow, hhigh]

theorem bytes?_pair {high low : Nat} (hhigh : isHighSurrogate high = true) (hlow : isLowSurrogate low = true)
    (l : Literal) : bytes? (.unit high :: .unit low :: l) = (bytes? l).map
      (String.utf8EncodeChar (Char.ofNat (0x10000 + (high - 0xd800) * 0x400 + (low - 0xdc00))) ++ ·) := by
  have hother : isLowSurrogate high = false := by
    simp only [isHighSurrogate, isLowSurrogate, Bool.and_eq_true, decide_eq_true_eq, Bool.and_eq_false_iff,
      decide_eq_false_iff_not] at hhigh ⊢
    omega
  rw [bytes?, if_neg (by rw [hother]; decide), if_pos hhigh]
  exact if_pos hlow

theorem bytes?_append_of_standsForChar {ps : Literal} {c : Char} (h : ps.StandsForChar c) (l : Literal) :
    bytes? (ps ++ l) = (bytes? l).map (String.utf8EncodeChar c ++ ·) := by
  have hvalid := Text.Utf8.toNat_val_cases c
  have hnat : c.val.toNat = c.toNat := rfl
  cases h with
  | bytes => exact bytes?_bytes_append _ l
  | short h =>
      rw [Text.Utf8.utf8EncodeChar_of_ascii h]
      rfl
  | unit h =>
      have hlow : isLowSurrogate c.toNat = false := by simp [isLowSurrogate]; omega
      have hhigh : isHighSurrogate c.toNat = false := by simp [isHighSurrogate]; omega
      rw [List.singleton_append, bytes?_unit hlow hhigh, Char.ofNat_toNat]
  | pair h =>
      have hhigh : isHighSurrogate (0xd800 + (c.toNat - 0x10000) / 0x400) = true := by
        simp [isHighSurrogate]; omega
      have hlow : isLowSurrogate (0xdc00 + (c.toNat - 0x10000) % 0x400) = true := by
        simp [isLowSurrogate]; omega
      have hcode : 0x10000 + (0xd800 + (c.toNat - 0x10000) / 0x400 - 0xd800) * 0x400 +
          (0xdc00 + (c.toNat - 0x10000) % 0x400 - 0xdc00) = c.toNat := by omega
      refine (bytes?_pair hhigh hlow l).trans ?_
      rw [hcode, Char.ofNat_toNat]

theorem bytes?_of_standsForChars {l : Literal} {cs : List Char} (h : l.StandsForChars cs) :
    bytes? l = some (Text.Utf8.encodeChars cs) := by
  induction h with
  | nil => rfl
  | cons hc _ ih =>
      rw [bytes?_append_of_standsForChar hc, ih]
      rfl

theorem decode?_of_standsFor {l : Literal} {s : String} (h : l.StandsFor s) : l.decode? = some s := by
  rw [decode?, bytes?_of_standsForChars h]
  exact Text.Utf8.decode?_encode s

theorem standsForChar_ofChar (c : Char) : (ofChar c).StandsForChar c := by
  unfold ofChar
  dsimp only
  split
  · exact .short (by omega)
  · split
    · exact .unit (by omega)
    · exact .bytes

theorem standsFor_ofString (s : String) : (ofString s).StandsFor s := by
  rw [StandsFor, ofString]
  induction s.toList with
  | nil => exact .nil
  | cons c cs ih => exact .cons (standsForChar_ofChar c) ih

/-- Decoding undoes writing. -/
theorem decode?_ofString (s : String) : (ofString s).decode? = some s :=
  decode?_of_standsFor (standsFor_ofString s)

theorem writable_ofChar (c : Char) : (ofChar c).Writable := by
  intro p hp
  unfold ofChar at hp
  dsimp only at hp
  split at hp
  · next h =>
      obtain rfl := List.mem_singleton.mp hp
      show UInt8.ofNat c.toNat ∈ _
      rcases h with h | h | h | h | h | h | h <;> rw [h] <;> decide
  · next hshort =>
      split at hp
      · next h =>
          obtain rfl := List.mem_singleton.mp hp
          exact Nat.lt_trans h (by decide)
      · next hcontrol =>
          obtain ⟨b, hb, rfl⟩ := List.mem_map.mp hp
          -- a byte is an ASCII character only where the character is that one
          have hnat : b.toNat = c.toNat ∨ 128 ≤ b.toNat := by
            by_cases hc : c.toNat < 128
            · rw [Text.Utf8.utf8EncodeChar_of_ascii hc] at hb
              rw [List.mem_singleton.mp hb, Text.Utf8.toNat_ofNat_of_lt (by omega)]
              exact .inl rfl
            · exact .inr (not_ascii_of_mem_utf8EncodeChar (by omega) hb)
          refine ⟨?_, ?_, ?_⟩
          · rintro rfl
            have : (0x22 : UInt8).toNat = 0x22 := rfl
            omega
          · rintro rfl
            have : (0x5c : UInt8).toNat = 0x5c := rfl
            omega
          · intro hlt
            have : b.toNat < 0x20 := hlt
            omega

theorem writable_ofString (s : String) : (ofString s).Writable := by
  intro p hp
  obtain ⟨c, _, hc⟩ := List.mem_flatMap.mp hp
  exact writable_ofChar c p hc

end Literal

/-! ## Integers -/

/-- A number other than zero does not start with the digit zero. -/
theorem digits_eq_cons {n : Nat} (hn : n ≠ 0) : ∃ d ds, digits n = d :: ds ∧ d ≠ 0 := by
  induction n using Nat.strongRecOn with
  | ind n ih =>
      rw [digits]
      split
      · exact ⟨_, [], rfl, fun h => hn (congrArg Fin.val h)⟩
      · next hlarge =>
          obtain ⟨d, ds, hdigits, hd⟩ := ih (n / 10) (by omega) (by omega)
          exact ⟨d, ds ++ _, by rw [hdigits]; rfl, hd⟩

theorem writable_digits (negative : Bool) (n : Nat) (fraction : List Digit) (exponent : Option Int) :
    Number.Writable ⟨negative, digits n, fraction, exponent⟩ := by
  by_cases hn : n = 0
  · exact ⟨0, [], by rw [hn, digits]; rfl, fun _ => rfl⟩
  · obtain ⟨d, ds, hdigits, hd⟩ := digits_eq_cons hn
    exact ⟨d, ds, hdigits, fun h => absurd (Fin.ext h) hd⟩

theorem integerBetween?_integer {low high i : Int} (hlow : low ≤ i) (hhigh : i ≤ high) :
    (integer i).integerBetween? low high = some i := by
  have hinteger : Number.integer? ⟨decide (i < 0), digits i.natAbs, [], none⟩ = some i := by
    rw [Number.integer?]
    simp only [TrafficShaping.Number.value_digits, List.isEmpty_nil, Option.isNone_none, Bool.and_self,
      if_true, decide_eq_true_eq]
    split
    · rw [if_neg (by omega)]
      congr 1
      omega
    · congr 1
      omega
  show Number.between? low high _ = _
  rw [Number.between?, hinteger]
  exact Option.filter_some_pos (by simp [hlow, hhigh])

/-! ## Doubles -/

open TrafficShaping.Number.Shortest (Interval interval sides search)

theorem not_contains_zero {i : Interval} (hlow : 0 < i.low) (k : Int) : i.contains 0 k = false := by
  have hsides : (sides i.low i.den (-k) 0).2 < (sides i.low i.den (-k) 0).1 := by
    rw [sides]
    split
    · show 0 * i.den * _ < i.low
      rw [Nat.zero_mul, Nat.zero_mul]
      exact hlow
    · show 0 * i.den < i.low * _
      rw [Nat.zero_mul]
      exact Nat.mul_pos hlow (Nat.pow_pos (by decide))
  unfold Interval.contains
  dsimp only
  split
  · rw [decide_eq_false (by omega), Bool.false_and]
  · rw [decide_eq_false (by omega), Bool.false_and]

theorem contains_of_onGrid? {i : Interval} {k : Int} {n : Nat} (h : i.onGrid? k = some n) :
    i.contains n k = true := by
  unfold Interval.onGrid? at h
  dsimp only at h
  split at h
  · next hbelow habove =>
      obtain rfl := Option.some.inj h
      split
      · exact hbelow
      · split
        · exact habove
        · rcases Nat.mod_two_eq_zero_or_one ((sides i.value i.den (-k) 1).1 /
            (sides i.value i.den (-k) 1).2) with heven | hodd
          · rw [heven]
            exact hbelow
          · rw [hodd]
            exact habove
  · next hbelow _ => exact Option.some.inj h ▸ hbelow
  · next _ habove => exact Option.some.inj h ▸ habove
  · cases h

/-- The decimal that the search finds is not zero, and nothing found is the plain zero. -/
theorem digits_search {i : Interval} (hlow : 0 < i.low) (top : Int) (counts : List Nat) :
    (search i top counts).digits ≠ 0 ∨ search i top counts = ⟨0, 0⟩ := by
  induction counts with
  | nil => exact .inr rfl
  | cons count more ih =>
      rw [search]
      split
      · next n hn =>
          refine .inl ?_
          rintro rfl
          have hcontains := contains_of_onGrid? hn
          rw [not_contains_zero hlow] at hcontains
          cases hcontains
      · exact ih

theorem low_interval_pos {x : Binary64} (hx : x.isZero = false) : 0 < (interval x).low := by
  have hmantissa : x.mantissa ≠ 0 := by simpa [Binary64.isZero] using hx
  unfold interval
  dsimp only
  refine Nat.mul_pos ?_ ?_
  · split <;> omega
  · split
    · decide
    · exact Nat.pow_pos (by decide)

theorem digits_shortest {x : Binary64} (hx : x.isZero = false) :
    x.shortest.digits ≠ 0 ∨ x.shortest = ⟨0, 0⟩ :=
  digits_search (low_interval_pos hx) _ _

theorem dropWhile_zero_append {d : Digit} (hd : d ≠ 0) (ds : List Digit) :
    ∃ ds', (ds ++ [d]).dropWhile (· == 0) = ds' ++ [d] := by
  induction ds with
  | nil => exact ⟨[], List.dropWhile_cons_of_neg (by simpa using hd)⟩
  | cons x ds ih =>
      rw [List.cons_append, List.dropWhile_cons]
      split
      · exact ih
      · exact ⟨x :: ds, rfl⟩

theorem dropTrailingZeros_cons {d : Digit} (hd : d ≠ 0) (ds : List Digit) :
    ∃ ds', Number.dropTrailingZeros (d :: ds) = d :: ds' := by
  obtain ⟨ds', h⟩ := dropWhile_zero_append hd ds.reverse
  refine ⟨ds'.reverse, ?_⟩
  rw [Number.dropTrailingZeros, List.reverse_cons, h, List.reverse_append]
  rfl

theorem writable_ofDouble (x : Binary64) : (Number.ofDouble x).Writable := by
  unfold Number.ofDouble
  split
  · exact ⟨0, [], rfl, fun _ => rfl⟩
  · next hx =>
      rcases digits_shortest (Bool.eq_false_of_not_eq_true hx) with hsome | hnone
      · obtain ⟨d, ds, hdigits, hd⟩ := digits_eq_cons hsome
        obtain ⟨rest, hdrop⟩ := dropTrailingZeros_cons hd ds
        dsimp only
        rw [hdigits, hdrop]
        split
        · exact ⟨0, [], rfl, fun _ => rfl⟩
        · split
          · next _ hpoint =>
              obtain ⟨k, hk⟩ : ∃ k, (((d :: ds).length : Int) + x.shortest.exponent).toNat = k + 1 :=
                ⟨_, (Nat.succ_pred (by omega)).symm⟩
              rw [hk]
              exact ⟨d, _, rfl, fun h => absurd (Fin.ext h) hd⟩
          · exact ⟨d, [], rfl, fun h => absurd (Fin.ext h) hd⟩
      · have hzero : digits 0 = [0] := by
          rw [digits]
          rfl
        dsimp only
        rw [hnone, hzero]
        exact ⟨0, [], rfl, fun _ => rfl⟩

end TrafficShaping.Json
