import TrafficShaping.Proofs.JsonScalars
import TrafficShaping.Proofs.Utf8Units

/-!
# What literals are decoded to

A literal is decoded to the text that it stands for and to nothing else. Decoding collects bytes first and reads
them as text afterwards, so the question is whether the bytes of one character could come from pieces that do not
belong together. They cannot: an escape stands for whole characters, and the first byte of a character is never a
later byte of another one.

This is said of literals that were read. By itself a piece could hold a number that no four digits make.
-/

namespace TrafficShaping.Json

/-- What a piece of a text that was read can be: only ASCII is escaped by a letter, and numbers have four digits. -/
def Piece.InRange : Piece → Prop
  | .byte _ => True
  | .short b => b.toNat < 0x80
  | .unit code => code < 0x10000

theorem hexValue?_lt {b : UInt8} {n : Nat} (h : Text.hexValue? b = some n) : n < 16 := by
  unfold Text.hexValue? at h
  dsimp only at h
  split at h
  · cases h
    omega
  · split at h
    · cases h
      omega
    · split at h
      · cases h
        omega
      · cases h

theorem Piece.Spelled.inRange {p : Piece} {bs : List UInt8} (h : p.Spelled bs) : p.InRange := by
  cases h with
  | byte => trivial
  | short h => exact (Token.escaped?_of_mem h).2.2
  | unit ha hb hc hd =>
      have ha := hexValue?_lt ha
      have hb := hexValue?_lt hb
      have hc := hexValue?_lt hc
      have hd := hexValue?_lt hd
      show _ < _
      omega

namespace Literal

def InRange (l : Literal) : Prop := ∀ p ∈ l, p.InRange

theorem Spelled.inRange {l : Literal} {bs : List UInt8} (h : l.Spelled bs) : l.InRange := by
  induction h with
  | nil => exact List.forall_mem_nil _
  | cons hp _ ih => exact List.forall_mem_cons.mpr ⟨hp.inRange, ih⟩

/-! ## The bytes of a literal -/

/-- The escapes by number that decoding accepts: of a character, or of the two surrogates of one. -/
theorem bytes?_unit_cases {code : Nat} (hcode : code < 0x10000) {l : Literal} {bs : List UInt8}
    (h : bytes? (.unit code :: l) = some bs) :
    ∃ c ps ls, Piece.unit code :: l = ps ++ ls ∧ StandsForChar ps c := by
  unfold bytes? at h
  split at h
  · cases h
  · next hlow =>
      split at h
      · next hhigh =>
          split at h
          · next low l =>
              split at h
              · next hlow' =>
                  simp only [isHighSurrogate, isLowSurrogate, Bool.and_eq_true, decide_eq_true_eq]
                    at hhigh hlow'
                  let n := 0x10000 + (code - 0xd800) * 0x400 + (low - 0xdc00)
                  have hnat : (Char.ofNat n).toNat = n := Text.Utf8.toNat_val_ofNat (by omega)
                  have hstands := StandsForChar.pair (c := Char.ofNat n) (by omega)
                  rw [hnat, show 0xd800 + (n - 0x10000) / 0x400 = code by omega,
                    show 0xdc00 + (n - 0x10000) % 0x400 = low by omega] at hstands
                  exact ⟨_, [.unit code, .unit low], l, rfl, hstands⟩
              · cases h
          · cases h
      · next hhigh =>
          simp only [isHighSurrogate, isLowSurrogate, Bool.and_eq_true, decide_eq_true_eq] at hlow hhigh
          have hnat : (Char.ofNat code).toNat = code := Text.Utf8.toNat_val_ofNat (by omega)
          have hstands := StandsForChar.unit (c := Char.ofNat code) (by omega)
          rw [hnat] at hstands
          exact ⟨_, [.unit code], l, rfl, hstands⟩

/-- What the bytes of a literal begin with: a byte that stands for itself, or the bytes of a character that is
escaped. -/
theorem bytes?_cons_cases {p : Piece} (hp : p.InRange) {l : Literal} {bs : List UInt8}
    (h : bytes? (p :: l) = some bs) :
    (∃ b rest, p = .byte b ∧ bytes? l = some rest ∧ bs = b :: rest) ∨
      ∃ c ps ls rest, p :: l = ps ++ ls ∧ StandsForChar ps c ∧ bytes? ls = some rest ∧
        bs = String.utf8EncodeChar c ++ rest := by
  cases p with
  | byte b =>
      obtain ⟨rest, hrest, rfl⟩ := Option.map_eq_some_iff.mp h
      exact .inl ⟨b, rest, rfl, hrest, rfl⟩
  | short b =>
      have hascii : b.toNat < 0x80 := hp
      have hnat : (Char.ofNat b.toNat).toNat = b.toNat := Text.Utf8.toNat_val_ofNat (by omega)
      have hstands := StandsForChar.short (c := Char.ofNat b.toNat) (by omega)
      rw [hnat, UInt8.ofNat_toNat] at hstands
      have hbytes := bytes?_append_of_standsForChar hstands l
      obtain ⟨rest, hrest, hbs⟩ := Option.map_eq_some_iff.mp (hbytes.symm.trans h)
      exact .inr ⟨_, [.short b], l, rest, rfl, hstands, hrest, hbs.symm⟩
  | unit code =>
      obtain ⟨c, ps, ls, hsplit, hstands⟩ := bytes?_unit_cases hp h
      rw [hsplit, bytes?_append_of_standsForChar hstands] at h
      obtain ⟨rest, hrest, hbs⟩ := Option.map_eq_some_iff.mp h
      exact .inr ⟨c, ps, ls, rest, hsplit, hstands, hrest, hbs.symm⟩

/-- Later bytes of a character are pieces of their own. -/
theorem eq_append_of_bytes? {bs rest : List UInt8} (hbs : ∀ b ∈ bs, ¬b.IsUTF8FirstByte) {l : Literal}
    (hl : l.InRange) (h : bytes? l = some (bs ++ rest)) :
    ∃ ls : Literal, l = bs.map .byte ++ ls ∧ bytes? ls = some rest := by
  induction bs generalizing l with
  | nil => exact ⟨l, rfl, h⟩
  | cons b bs ih =>
      obtain ⟨hb, hbs⟩ := List.forall_mem_cons.mp hbs
      cases l with
      | nil => cases h
      | cons p l =>
          obtain ⟨hp, hl'⟩ := List.forall_mem_cons.mp hl
          rcases bytes?_cons_cases hp h with ⟨b', rest', rfl, hrest, heq⟩ | ⟨c, _, _, rest', _, _, _, heq⟩
          · obtain ⟨rfl, rfl⟩ := List.cons.inj heq
            obtain ⟨ls, rfl, hls⟩ := ih hbs hl' hrest
            exact ⟨ls, rfl, hls⟩
          · obtain ⟨b', bs', hc, hfirst, _⟩ := Text.Utf8.exists_utf8EncodeChar c
            rw [hc] at heq
            exact absurd ((List.cons.inj heq).1 ▸ hfirst) hb

theorem standsForChars_of_bytes? {cs : List Char} {l : Literal} (hl : l.InRange)
    (h : bytes? l = some (Text.Utf8.encodeChars cs)) : l.StandsForChars cs := by
  induction cs generalizing l with
  | nil =>
      cases l with
      | nil => exact .nil
      | cons p l =>
          obtain ⟨hp, _⟩ := List.forall_mem_cons.mp hl
          rcases bytes?_cons_cases hp h with ⟨b, rest, _, _, heq⟩ | ⟨c, _, _, rest, _, _, _, heq⟩
          · cases heq
          · exact absurd (List.append_eq_nil_iff.mp heq.symm).1 String.utf8EncodeChar_ne_nil
  | cons c cs ih =>
      have hchars : Text.Utf8.encodeChars (c :: cs) = String.utf8EncodeChar c ++ Text.Utf8.encodeChars cs := rfl
      obtain ⟨b, bs, hc, hfirst, hlater⟩ := Text.Utf8.exists_utf8EncodeChar c
      cases l with
      | nil =>
          rw [hchars, hc] at h
          cases h
      | cons p l =>
          obtain ⟨hp, hl'⟩ := List.forall_mem_cons.mp hl
          rcases bytes?_cons_cases hp h with
            ⟨b', rest, rfl, hrest, heq⟩ | ⟨d, ps, ls, rest, hsplit, hps, hrest, heq⟩
          · rw [hchars, hc] at heq
            obtain ⟨rfl, rfl⟩ := List.cons.inj heq
            obtain ⟨ls, rfl, hls⟩ := eq_append_of_bytes? hlater hl' hrest
            have hrange : ls.InRange := fun q hq => hl' q (List.mem_append_right _ hq)
            have hbytes := StandsForChar.bytes (c := c)
            rw [hc] at hbytes
            exact .cons hbytes (ih hrange hls)
          · obtain ⟨rfl, rfl⟩ := Text.Utf8.utf8EncodeChar_append_inj (hchars.symm.trans heq)
            rw [hsplit] at hl ⊢
            exact .cons hps (ih (fun q hq => hl q (List.mem_append_right _ hq)) hrest)

/-! ## The text of a literal -/

/-- Decoding a literal that was read finds the text that it stands for, if it stands for one. -/
theorem decode?_eq_some_iff {l : Literal} {bs : List UInt8} (hl : l.Spelled bs) {s : String} :
    l.decode? = some s ↔ l.StandsFor s := by
  refine ⟨fun h => ?_, decode?_of_standsFor⟩
  obtain ⟨bytes, hbytes, h⟩ := Option.bind_eq_some_iff.mp h
  rw [Text.Utf8.decode?_eq_some_iff.mp h] at hbytes
  exact standsForChars_of_bytes? hl.inRange hbytes

end Literal

end TrafficShaping.Json
