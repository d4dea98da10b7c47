import TrafficShaping.Proofs.Utf8Text

/-!
# The order of texts is the order of their bytes

Texts are ordered by their characters, and whoever compares them byte by byte finds the same order. UTF-8 is
made so: a longer sequence starts with a larger byte, and of two sequences of one length the first different
byte tells the numbers of the characters apart. The bytes that follow are never looked at, which is why the
statement about two characters allows anything behind them.
-/

namespace TrafficShaping.Text.Utf8

theorem ofNat_cons_lt_cons {a b : Nat} {xs ys : List UInt8} (ha : a < 256) (hb : b < 256) (h : a ≤ b)
    (hrest : a = b → xs < ys) : UInt8.ofNat a :: xs < UInt8.ofNat b :: ys := by
  rw [List.cons_lt_cons_iff, UInt8.lt_iff_toNat_lt, toNat_ofNat_of_lt ha, toNat_ofNat_of_lt hb]
  rcases Nat.lt_or_eq_of_le h with hlt | heq
  · exact .inl hlt
  · exact .inr ⟨by rw [heq], hrest heq⟩

/-- The bytes of a smaller character come first, whatever follows. -/
theorem utf8EncodeChar_append_lt {c d : Char} (h : c < d) (xs ys : List UInt8) :
    String.utf8EncodeChar c ++ xs < String.utf8EncodeChar d ++ ys := by
  have hlt : c.val.toNat < d.val.toNat := UInt32.lt_iff_toNat_lt.mp (Char.lt_def.mp h)
  have hvalid := toNat_val_cases d
  rw [String.utf8EncodeChar, String.utf8EncodeChar]
  generalize c.val.toNat = n at hlt ⊢
  generalize d.val.toNat = m at hlt hvalid ⊢
  split
  · next hone =>
      -- one byte comes before the first byte of any longer sequence
      split
      · exact ofNat_cons_lt_cons (by omega) (by omega) (by omega) fun heq => by omega
      · split
        · exact ofNat_cons_lt_cons (by omega) (by omega) (by omega) fun heq => by omega
        · split <;>
            exact ofNat_cons_lt_cons (by omega) (by omega) (by omega) fun heq => by omega
  · next hone =>
      rw [if_neg (show ¬m ≤ 127 by omega)]
      split
      · next htwo =>
          split
          · refine ofNat_cons_lt_cons (by omega) (by omega) (by omega) fun heq => ?_
            exact ofNat_cons_lt_cons (by omega) (by omega) (by omega) fun heq => by omega
          · split <;>
              exact ofNat_cons_lt_cons (by omega) (by omega) (by omega) fun heq => by omega
      · next htwo =>
          rw [if_neg (show ¬m ≤ 2047 by omega)]
          split
          · next hthree =>
              split
              · refine ofNat_cons_lt_cons (by omega) (by omega) (by omega) fun heq => ?_
                refine ofNat_cons_lt_cons (by omega) (by omega) (by omega) fun heq' => ?_
                exact ofNat_cons_lt_cons (by omega) (by omega) (by omega) fun heq => by omega
              · exact ofNat_cons_lt_cons (by omega) (by omega) (by omega) fun heq => by omega
          · next hthree =>
              rw [if_neg (show ¬m ≤ 65535 by omega)]
              refine ofNat_cons_lt_cons (by omega) (by omega) (by omega) fun heq => ?_
              refine ofNat_cons_lt_cons (by omega) (by omega) (by omega) fun heq' => ?_
              refine ofNat_cons_lt_cons (by omega) (by omega) (by omega) fun heq'' => ?_
              exact ofNat_cons_lt_cons (by omega) (by omega) (by omega) fun heq => by omega

theorem encodeChars_lt {cs ds : List Char} (h : cs < ds) : encodeChars cs < encodeChars ds := by
  induction cs generalizing ds with
  | nil =>
      cases ds with
      | nil => exact absurd h (List.lt_irrefl [])
      | cons d ds =>
          have hne : encodeChars (d :: ds) ≠ [] := by
            rw [encodeChars, List.flatMap_cons]
            exact fun hnil => String.utf8EncodeChar_ne_nil (List.append_eq_nil_iff.mp hnil).1
          obtain ⟨b, bs, hcons⟩ := List.exists_cons_of_ne_nil hne
          rw [hcons]
          exact List.nil_lt_cons b bs
  | cons c cs ih =>
      cases ds with
      | nil => exact absurd h (List.not_lt_nil _)
      | cons d ds =>
          rw [encodeChars, encodeChars, List.flatMap_cons, List.flatMap_cons]
          rcases List.cons_lt_cons_iff.mp h with hlt | ⟨rfl, hrest⟩
          · exact utf8EncodeChar_append_lt hlt _ _
          · exact List.append_left_lt (ih hrest)

theorem encode_lt {a b : String} (h : a < b) : encode a < encode b := encodeChars_lt h

end TrafficShaping.Text.Utf8
