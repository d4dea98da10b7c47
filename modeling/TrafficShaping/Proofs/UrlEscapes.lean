import TrafficShaping.Proofs.Utf8Units
import TrafficShaping.Url

/-!
# Escapes and what they stand for

Escaping is not undone by taking escapes out: a percent sign is left as it is, so that escapes which are in a text
already are taken out as well. What holds is that escaping changes nothing about what a text stands for. A text
and its escaped form give the same text once the escapes are out of either, and a text without a percent sign
gives itself.

The reader looks two bytes ahead. An escape that was added begins with a percent sign, which is no digit, and
bytes that are digits are never escaped. So a percent sign of the text is followed by two digits in the escaped
form exactly if it is in the text, and these are the same digits.
-/

namespace TrafficShaping.Url

open Text (hexValue?)
open Text.Utf8 (encode)

/-! ## Bytes -/

def percent : UInt8 := 0x25

/-- How a byte is written, as bytes. -/
def writtenByte (escaped : UInt8 → Bool) (b : UInt8) : List UInt8 :=
  (writeByte escaped b).map fun c => UInt8.ofNat c.toNat

/-- Whether a list begins with a digit. -/
def BeginsHex (bs : List UInt8) : Prop := ∃ b ∈ bs.head?, (hexValue? b).isSome

/-- Whether the bytes that are escaped are neither digits nor percent signs, and all that are not ASCII are. -/
structure Escapes (escaped : UInt8 → Bool) : Prop where
  digit : ∀ b, (hexValue? b).isSome → escaped b = false
  sign : escaped percent = false
  ascii : ∀ b, escaped b = false → b.toNat < 0x80

theorem hexDigit_lt : ∀ n < 16, (hexDigit n).toNat < 0x80 := by decide

theorem toNat_ofNat_ascii {n : Nat} (h : n < 0x80) : (Char.ofNat n).toNat = n :=
  Text.Utf8.toNat_val_ofNat (.inl (by omega))

theorem hexValue?_hexDigit : ∀ n < 16, hexValue? (UInt8.ofNat (hexDigit n).toNat) = some n := by decide

theorem unescapeBytes_cons_of_ne {a : UInt8} (h : a ≠ percent) (bs : List UInt8) :
    unescapeBytes (a :: bs) = a :: unescapeBytes bs := by
  have hnat : a.toNat ≠ 0x25 := fun heq => h (UInt8.toNat_inj.mp heq)
  rcases bs with _ | ⟨b, _ | ⟨c, rest⟩⟩
  · rfl
  · simp [unescapeBytes]
  · rw [unescapeBytes]
    split
    · next heq _ _ => exact absurd heq hnat
    · rfl

theorem unescapeBytes_escape {b c : UInt8} {high low : Nat} (hb : hexValue? b = some high)
    (hc : hexValue? c = some low) (rest : List UInt8) :
    unescapeBytes (percent :: b :: c :: rest) = UInt8.ofNat (16 * high + low) :: unescapeBytes rest := by
  have hpercent : percent.toNat = 0x25 := rfl
  simp only [unescapeBytes, hpercent, hb, hc]

/-- A percent sign that no two digits follow stands for itself. -/
theorem unescapeBytes_percent {bs : List UInt8} (h : ¬(BeginsHex bs ∧ BeginsHex bs.tail)) :
    unescapeBytes (percent :: bs) = percent :: unescapeBytes bs := by
  rcases bs with _ | ⟨b, _ | ⟨c, rest⟩⟩
  · rfl
  · simp [unescapeBytes]
  · rw [unescapeBytes]
    split
    · next high low _ hb hc =>
        exact absurd ⟨⟨b, rfl, by rw [hb]; rfl⟩, ⟨c, rfl, by rw [hc]; rfl⟩⟩ h
    · rfl

theorem unescapeBytes_of_percent_not_mem {bs : List UInt8} (h : percent ∉ bs) : unescapeBytes bs = bs := by
  induction bs with
  | nil => rfl
  | cons b bs ih =>
      rw [unescapeBytes_cons_of_ne (fun heq => h (heq ▸ List.mem_cons_self)),
        ih fun hmem => h (List.mem_cons_of_mem b hmem)]

namespace Escapes

variable {escaped : UInt8 → Bool}

theorem writtenByte_of_not (h : Escapes escaped) {b : UInt8} (hb : escaped b = false) :
    writtenByte escaped b = [b] := by
  have hlt := h.ascii b hb
  rw [writtenByte, writeByte, hb]
  simp only [Bool.false_eq_true, if_false, List.map_cons, List.map_nil]
  rw [toNat_ofNat_ascii hlt, UInt8.ofNat_toNat]

theorem writtenByte_of_escaped {b : UInt8} (hb : escaped b = true) :
    writtenByte escaped b = [percent, UInt8.ofNat (hexDigit (b.toNat / 16)).toNat,
      UInt8.ofNat (hexDigit (b.toNat % 16)).toNat] := by
  rw [writtenByte, writeByte, hb]
  rfl

/-- The escaped form begins with a digit exactly if the bytes do. -/
theorem beginsHex_iff (h : Escapes escaped) (bs : List UInt8) :
    BeginsHex (bs.flatMap (writtenByte escaped)) ↔ BeginsHex bs := by
  cases bs with
  | nil => rfl
  | cons b bs =>
      rw [List.flatMap_cons]
      cases hb : escaped b with
      | false => rw [h.writtenByte_of_not hb]; rfl
      | true =>
          rw [writtenByte_of_escaped hb]
          refine iff_of_false ?_ ?_
          · rintro ⟨_, ⟨⟩, hdigit⟩
            cases hdigit
          · rintro ⟨_, ⟨⟩, hdigit⟩
            rw [h.digit b hdigit] at hb
            cases hb

theorem beginsHex_pair_iff (h : Escapes escaped) (bs : List UInt8) :
    BeginsHex (bs.flatMap (writtenByte escaped)) ∧ BeginsHex (bs.flatMap (writtenByte escaped)).tail ↔
      BeginsHex bs ∧ BeginsHex bs.tail := by
  rw [h.beginsHex_iff]
  refine and_congr_right ?_
  rintro ⟨b, hb, hbhex⟩
  rcases bs with _ | ⟨b', rest⟩
  · cases hb
  · obtain rfl := Option.some.inj hb
    rw [List.flatMap_cons, h.writtenByte_of_not (h.digit _ hbhex), List.singleton_append, List.tail_cons,
      List.tail_cons, h.beginsHex_iff]

/-- An escape that was added is taken out again. -/
theorem unescapeBytes_writtenByte {b : UInt8} (hb : escaped b = true) (rest : List UInt8) :
    unescapeBytes (writtenByte escaped b ++ rest) = b :: unescapeBytes rest := by
  have hlt := b.toNat_lt
  have hvalue : 16 * (b.toNat / 16) + b.toNat % 16 = b.toNat := by omega
  rw [writtenByte_of_escaped hb]
  simp only [List.cons_append, List.nil_append]
  rw [unescapeBytes_escape (hexValue?_hexDigit _ (by omega)) (hexValue?_hexDigit _ (by omega)), hvalue,
    UInt8.ofNat_toNat]

/-- Bytes and their escaped form give the same bytes without escapes. -/
theorem unescapeBytes_flatMap (h : Escapes escaped) (bs : List UInt8) :
    unescapeBytes (bs.flatMap (writtenByte escaped)) = unescapeBytes bs := by
  induction hn : bs.length using Nat.strongRecOn generalizing bs with
  | ind n ih =>
    rcases bs with _ | ⟨a, bs⟩
    · rfl
    · have hshorter (cs : List UInt8) (hcs : cs.length ≤ bs.length) :
          unescapeBytes (cs.flatMap (writtenByte escaped)) = unescapeBytes cs :=
        ih cs.length (by rw [← hn, List.length_cons]; omega) cs rfl
      rw [List.flatMap_cons]
      by_cases ha : escaped a = true
      · have hne : a ≠ percent := by
          rintro rfl
          rw [h.sign] at ha
          cases ha
        rw [unescapeBytes_writtenByte ha, unescapeBytes_cons_of_ne hne, hshorter bs (Nat.le_refl _)]
      · rw [h.writtenByte_of_not (by simpa using ha), List.singleton_append]
        by_cases hpercent : a = percent
        · subst hpercent
          by_cases hdigits : BeginsHex bs ∧ BeginsHex bs.tail
          · -- two digits follow, and they are written as they are
            obtain ⟨⟨b, hb, hbhex⟩, c, hc, hchex⟩ := hdigits
            rcases bs with _ | ⟨b', _ | ⟨c', rest⟩⟩
            · cases hb
            · cases hc
            · obtain rfl := Option.some.inj hb
              obtain rfl := Option.some.inj hc
              obtain ⟨high, hhigh⟩ := Option.isSome_iff_exists.mp hbhex
              obtain ⟨low, hlow⟩ := Option.isSome_iff_exists.mp hchex
              rw [List.flatMap_cons, List.flatMap_cons, h.writtenByte_of_not (h.digit _ hbhex),
                h.writtenByte_of_not (h.digit _ hchex), List.singleton_append, List.singleton_append,
                unescapeBytes_escape hhigh hlow, unescapeBytes_escape hhigh hlow,
                hshorter rest (by simp only [List.length_cons]; omega)]
          · rw [unescapeBytes_percent (mt (h.beginsHex_pair_iff bs).mp hdigits), unescapeBytes_percent hdigits,
              hshorter bs (Nat.le_refl _)]
        · rw [unescapeBytes_cons_of_ne hpercent, unescapeBytes_cons_of_ne hpercent,
            hshorter bs (Nat.le_refl _)]

end Escapes

/-! ## Texts -/

theorem isEscapedInPath_eq_false_iff {b : UInt8} :
    isEscapedInPath b = false ↔
      0x20 < b.toNat ∧ b.toNat < 0x7f ∧
        b.toNat ∉ [0x22, 0x23, 0x3c, 0x3e, 0x3f, 0x60, 0x7b, 0x7d] := by
  simp [isEscapedInPath, isEscapedInQuery, isUnwritable]
  omega

theorem range_of_isSome_hexValue? {b : UInt8} (h : (hexValue? b).isSome) :
    48 ≤ b.toNat ∧ b.toNat ≤ 57 ∨ 97 ≤ b.toNat ∧ b.toNat ≤ 102 ∨ 65 ≤ b.toNat ∧ b.toNat ≤ 70 := by
  simp only [hexValue?] at h
  split at h
  · exact .inl ‹_›
  · split at h
    · exact .inr (.inl ‹_›)
    · split at h
      · exact .inr (.inr ‹_›)
      · cases h

theorem escapes_inPath : Escapes isEscapedInPath where
  digit := by
    intro b hb
    have hrange := range_of_isSome_hexValue? hb
    rw [isEscapedInPath_eq_false_iff]
    simp only [List.mem_cons, List.not_mem_nil, or_false]
    omega
  sign := by decide
  ascii b hb := by
    have := isEscapedInPath_eq_false_iff.mp hb
    omega

theorem encode_escape {escaped : UInt8 → Bool} (h : Escapes escaped) (s : String) :
    encode (escape escaped s) = (encode s).flatMap (writtenByte escaped) := by
  have hascii (b : UInt8) : ∀ c ∈ writeByte escaped b, c.toNat < 0x80 := by
    intro c hc
    have hlt := b.toNat_lt
    rw [writeByte] at hc
    split at hc
    · simp only [List.mem_cons, List.not_mem_nil, or_false] at hc
      rcases hc with rfl | rfl | rfl
      · decide
      · exact hexDigit_lt _ (by omega)
      · exact hexDigit_lt _ (by omega)
    · next hb =>
        have hb := h.ascii b (by simpa using hb)
        rw [List.mem_singleton.mp hc, toNat_ofNat_ascii hb]
        exact hb
  rw [encode, escape, String.toList_ofList, Text.Utf8.encodeChars, List.flatMap_assoc]
  congr 1
  funext b
  rw [writtenByte, List.flatMap_congr fun c hc => Text.Utf8.utf8EncodeChar_of_ascii (hascii b c hc)]
  exact List.map_eq_flatMap.symm

/-- A text and its escaped form stand for the same text. -/
theorem unescape_escape {escaped : UInt8 → Bool} (h : Escapes escaped) (s : String) :
    unescape (escape escaped s) = unescape s := by
  rw [unescape, encode_escape h, h.unescapeBytes_flatMap, unescape]

/-- An ASCII character is in a text exactly if its byte is in the bytes. -/
theorem mem_encode_iff {c : Char} (hc : c.toNat < 0x80) {s : String} :
    UInt8.ofNat c.toNat ∈ encode s ↔ c ∈ s.toList := by
  constructor
  · intro hmem
    obtain ⟨front, back, hsplit⟩ := List.append_of_mem hmem
    have hunits := Text.Utf8.units_append_cons front back hc
    rw [← hsplit, Text.Utf8.units_encode] at hunits
    have hsome : some c ∈ s.toList.map some := by simp [hunits]
    simpa using hsome
  · intro hmem
    refine List.mem_flatMap.mpr ⟨c, hmem, ?_⟩
    rw [Text.Utf8.utf8EncodeChar_of_ascii hc]
    exact List.mem_singleton.mpr rfl

theorem unescapeBytes_encode {s : String} (h : '%' ∉ s.toList) : unescapeBytes (encode s) = encode s :=
  unescapeBytes_of_percent_not_mem fun hmem => h ((mem_encode_iff (by decide)).mp hmem)

/-- A text without a percent sign stands for itself. -/
theorem unescape_eq_self {s : String} (h : '%' ∉ s.toList) : unescape s = s := by
  rw [unescape, unescapeBytes_encode h, Text.Utf8.decodeLossy_encode]

end TrafficShaping.Url
