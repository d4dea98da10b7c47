import TrafficShaping.Text.Utf8
import Mathlib.Data.List.Basic

/-!
# Texts as bytes and back

The bytes of a text read as that text. The reader never looks ahead, so it is enough to follow it through the
bytes of one character: the first byte says how many more there are and which range the second one lies in,
and the ranges that leave out overlong forms and surrogates are those that no character falls outside of.
-/

namespace TrafficShaping.Text.Utf8

theorem toNat_ofNat_of_lt {n : Nat} (h : n < 256) : (UInt8.ofNat n).toNat = n := by
  rw [UInt8.toNat_ofNat']
  exact Nat.mod_eq_of_lt h

theorem ofNat_eq {n : Nat} {b : UInt8} (h : n = b.toNat) : UInt8.ofNat n = b := by
  rw [h, UInt8.ofNat_toNat]

/-- The numbers of characters: below the surrogates, or above them and below the end. -/
theorem toNat_val_cases (c : Char) :
    c.val.toNat < 0xd800 ∨ 0xdfff < c.val.toNat ∧ c.val.toNat < 0x110000 := by
  have := c.valid
  rw [UInt32.isValidChar, Nat.isValidChar] at this
  exact this

theorem utf8EncodeChar_of_ascii {c : Char} (hc : c.toNat < 0x80) :
    String.utf8EncodeChar c = [UInt8.ofNat c.toNat] := by
  rw [String.utf8EncodeChar]
  exact if_pos (show c.val.toNat ≤ 0x7f from Nat.le_of_lt_succ hc)

theorem resume_of_mem {p : Pending} {b : Nat} (hb : b < 256) (hlow : p.low ≤ b) (hhigh : b ≤ p.high) :
    p.resume (UInt8.ofNat b) = match p.more with
      | 0 => .complete (Char.ofNat (p.bits * 64 + b % 64))
      | more + 1 => .pending ⟨p.bits * 64 + b % 64, 0x80, 0xbf, more⟩ := by
  obtain ⟨bits, low, high, more⟩ := p
  have hrange : (decide (low ≤ b) && decide (b ≤ high)) = true := by
    rw [decide_eq_true hlow, decide_eq_true hhigh, Bool.and_self]
  unfold Pending.resume
  dsimp only
  rw [toNat_ofNat_of_lt hb]
  cases more with
  | zero => exact if_pos hrange
  | succ more => exact if_pos hrange

/-! ## First bytes

What the first byte of a character announces, in terms of the character's number. -/

theorem start_of_two {n : Nat} (h : 0x7f < n) (h' : n ≤ 0x7ff) :
    start (UInt8.ofNat (n / 64 % 32 + 192)) = .pending ⟨n / 64, 0x80, 0xbf, 0⟩ := by
  rw [start]
  simp only [toNat_ofNat_of_lt (show n / 64 % 32 + 192 < 256 by omega)]
  rw [if_neg (by omega), if_neg (by omega), if_pos (by omega),
    show n / 64 % 32 + 192 - 0xc0 = n / 64 by omega]

theorem start_of_three {n : Nat} (h : 0x7ff < n) (h' : n ≤ 0xffff) (hn : n < 0xd800 ∨ 0xdfff < n) :
    ∃ low high, start (UInt8.ofNat (n / 4096 % 16 + 224)) = .pending ⟨n / 4096, low, high, 1⟩ ∧
      low ≤ n / 64 % 64 + 128 ∧ n / 64 % 64 + 128 ≤ high := by
  rw [start]
  simp only [toNat_ofNat_of_lt (show n / 4096 % 16 + 224 < 256 by omega), beq_iff_eq]
  rw [if_neg (by omega), if_neg (by omega), if_neg (by omega)]
  split
  · exact ⟨0xa0, 0xbf, by rw [show n / 4096 = 0 by omega], by omega, by omega⟩
  · split
    · exact ⟨0x80, 0x9f, by rw [show n / 4096 = 0xd by omega], by omega, by omega⟩
    · rw [if_pos (by omega), show n / 4096 % 16 + 224 - 0xe0 = n / 4096 by omega]
      exact ⟨0x80, 0xbf, rfl, by omega, by omega⟩

theorem start_of_four {n : Nat} (h : 0xffff < n) (h' : n < 0x110000) :
    ∃ low high, start (UInt8.ofNat (n / 262144 % 8 + 240)) = .pending ⟨n / 262144, low, high, 2⟩ ∧
      low ≤ n / 4096 % 64 + 128 ∧ n / 4096 % 64 + 128 ≤ high := by
  rw [start]
  simp only [toNat_ofNat_of_lt (show n / 262144 % 8 + 240 < 256 by omega), beq_iff_eq]
  rw [if_neg (by omega), if_neg (by omega), if_neg (by omega), if_neg (by omega), if_neg (by omega),
    if_neg (by omega)]
  split
  · exact ⟨0x90, 0xbf, by rw [show n / 262144 = 0 by omega], by omega, by omega⟩
  · split
    · rw [show n / 262144 % 8 + 240 - 0xf0 = n / 262144 by omega]
      exact ⟨0x80, 0xbf, rfl, by omega, by omega⟩
    · rw [if_pos (by omega)]
      exact ⟨0x80, 0x8f, by rw [show n / 262144 = 4 by omega], by omega, by omega⟩

/-! ## Characters -/

theorem read_of_start {us : List (Option Char)} {b : UInt8} {p : Pending} (h : start b = .pending p) :
    Reader.read ⟨us, none⟩ b = ⟨us, some p⟩ := by
  show Reader.begin us b = _
  rw [Reader.begin, h]

/-- One more byte of a sequence, one that is not its last. -/
theorem read_pending {us : List (Option Char)} {bits low high more b : Nat} (hb : b < 256)
    (hlow : low ≤ b) (hhigh : b ≤ high) :
    Reader.read ⟨us, some ⟨bits, low, high, more + 1⟩⟩ (UInt8.ofNat b) =
      ⟨us, some ⟨bits * 64 + b % 64, 0x80, 0xbf, more⟩⟩ := by
  rw [Reader.read]
  simp only [resume_of_mem (p := ⟨bits, low, high, more + 1⟩) hb hlow hhigh]

/-- The last byte of a sequence. -/
theorem read_last {us : List (Option Char)} {bits low high b : Nat} (hb : b < 256)
    (hlow : low ≤ b) (hhigh : b ≤ high) :
    Reader.read ⟨us, some ⟨bits, low, high, 0⟩⟩ (UInt8.ofNat b) =
      ⟨some (Char.ofNat (bits * 64 + b % 64)) :: us, none⟩ := by
  rw [Reader.read]
  simp only [resume_of_mem (p := ⟨bits, low, high, 0⟩) hb hlow hhigh]

/-- Reading the bytes of a character between two sequences reads that character. -/
theorem foldl_read_utf8EncodeChar (us : List (Option Char)) (c : Char) :
    (String.utf8EncodeChar c).foldl Reader.read ⟨us, none⟩ = ⟨some c :: us, none⟩ := by
  have hc : Char.ofNat c.val.toNat = c := Char.ofNat_toNat c
  have hvalid := toNat_val_cases c
  rw [String.utf8EncodeChar]
  generalize c.val.toNat = n at hc hvalid ⊢
  subst hc
  split
  · next hone =>
      have hstart : start (UInt8.ofNat n) = .complete (Char.ofNat n) := by
        rw [start]
        simp only [toNat_ofNat_of_lt (show n < 256 by omega)]
        rw [if_pos (by omega)]
      show Reader.begin us (UInt8.ofNat n) = _
      rw [Reader.begin, hstart]
  · next hone =>
      split
      · next htwo =>
          rw [List.foldl_cons, read_of_start (start_of_two (by omega) htwo), List.foldl_cons,
            read_last (by omega) (by omega) (by omega)]
          rw [List.foldl_nil, show n / 64 * 64 + (n % 64 + 128) % 64 = n by omega]
      · next htwo =>
          split
          · next hthree =>
              obtain ⟨low, high, hstart, hlow, hhigh⟩ :=
                start_of_three (n := n) (by omega) hthree (by omega)
              rw [List.foldl_cons, read_of_start hstart, List.foldl_cons,
                read_pending (by omega) hlow hhigh, List.foldl_cons,
                read_last (by omega) (by omega) (by omega)]
              rw [List.foldl_nil, show (n / 4096 * 64 + (n / 64 % 64 + 128) % 64) * 64 +
                (n % 64 + 128) % 64 = n by omega]
          · next hthree =>
              obtain ⟨low, high, hstart, hlow, hhigh⟩ :=
                start_of_four (n := n) (by omega) (by omega)
              rw [List.foldl_cons, read_of_start hstart, List.foldl_cons,
                read_pending (by omega) hlow hhigh, List.foldl_cons,
                read_pending (by omega) (by omega) (by omega), List.foldl_cons,
                read_last (by omega) (by omega) (by omega)]
              rw [List.foldl_nil, show ((n / 262144 * 64 + (n / 4096 % 64 + 128) % 64) * 64 +
                (n / 64 % 64 + 128) % 64) * 64 + (n % 64 + 128) % 64 = n by omega]

/-! ## Texts -/

theorem foldl_read_encodeChars (us : List (Option Char)) (cs : List Char) :
    (encodeChars cs).foldl Reader.read ⟨us, none⟩ = ⟨(cs.map some).reverse ++ us, none⟩ := by
  induction cs generalizing us with
  | nil => rfl
  | cons c cs ih =>
      rw [encodeChars, List.flatMap_cons, List.foldl_append, foldl_read_utf8EncodeChar]
      refine (ih (some c :: us)).trans ?_
      rw [List.map_cons, List.reverse_cons, List.append_assoc]
      rfl

theorem units_encode (s : String) : units (encode s) = s.toList.map some := by
  rw [units, encode, foldl_read_encodeChars, List.append_nil, Reader.finish, List.reverse_reverse]

theorem decode?_encode (s : String) : decode? (encode s) = some s := by
  rw [decode?, units_encode]
  have hmap : (s.toList.map some).mapM id = some s.toList := by
    rw [List.mapM_map]
    exact (List.mapM_pure (m := Option) (f := id)).trans (by rw [List.map_id]; rfl)
  rw [hmap, Option.map_some, String.ofList_toList]

end TrafficShaping.Text.Utf8
