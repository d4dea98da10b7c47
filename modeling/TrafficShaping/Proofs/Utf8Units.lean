import TrafficShaping.Proofs.Utf8Text
import Mathlib.Data.List.Forall2
import Mathlib.Data.List.Induction

/-!
# What the units of bytes stand for

The reader gives an account of all bytes: each character that it reads is what some bytes in a row are the
encoding of, and each time it gives up it has passed over bytes that are not ASCII. Two things follow. Bytes that
are read as text without giving up are the bytes of that text and of no other. And an ASCII character is in what
was read exactly where its byte is in the bytes, so bytes can be cut at ASCII characters before or after they are
read, also where they are no text. Where the bytes of a character stand in front, whatever it is, they can be cut
off behind it.

What carries the induction is said of the sequence that the reader is in the middle of: if it goes on to its end,
all of it are the bytes of the character that is read.
-/

namespace TrafficShaping.Text.Utf8

/-! ## Sequences -/

/-- Whether a sequence of which these bytes were read is, if it goes on to its end, the encoding of the character
that is read. -/
def Completes : Nat → (bits low high : Nat) → List UInt8 → Prop
  | 0, bits, low, high, bs => ∀ b : UInt8, low ≤ b.toNat → b.toNat ≤ high →
      String.utf8EncodeChar (Char.ofNat (bits * 64 + b.toNat % 64)) = bs ++ [b]
  | more + 1, bits, low, high, bs => ∀ b : UInt8, low ≤ b.toNat → b.toNat ≤ high →
      Completes more (bits * 64 + b.toNat % 64) 0x80 0xbf (bs ++ [b])

theorem toNat_val_ofNat {n : Nat} (h : n < 0xd800 ∨ 0xdfff < n ∧ n < 0x110000) :
    (Char.ofNat n).val.toNat = n := by
  have hvalid : n.isValidChar := h
  rw [Char.ofNat, dif_pos hvalid]
  rfl

theorem utf8EncodeChar_ofNat {b : UInt8} (hb : b.toNat < 0x80) :
    String.utf8EncodeChar (Char.ofNat b.toNat) = [b] := by
  rw [String.utf8EncodeChar, toNat_val_ofNat (by omega), if_pos (by omega), UInt8.ofNat_toNat]

/-- What is known of a sequence that the reader is in the middle of, from the bytes read of it. -/
structure Pending.After (p : Pending) (bs : List UInt8) : Prop where
  ne_nil : bs ≠ []
  not_ascii : ∀ b ∈ bs, 0x80 ≤ b.toNat
  low : 0x80 ≤ p.low
  completes : Completes p.more p.bits p.low p.high bs

theorem after_of_completes {p : Pending} {a : UInt8} (ha : 0x80 ≤ a.toNat) (hlow : 0x80 ≤ p.low)
    (h : Completes p.more p.bits p.low p.high [a]) : p.After [a] where
  ne_nil := List.cons_ne_nil a []
  not_ascii _ hb := List.mem_singleton.mp hb ▸ ha
  low := hlow
  completes := h

theorem after_two {a : UInt8} {bits : Nat} (ha : a.toNat = 0xc0 + bits) (hbits : 2 ≤ bits)
    (hbits' : bits < 0x20) : Pending.After ⟨bits, 0x80, 0xbf, 0⟩ [a] := by
  refine after_of_completes (by omega) (Nat.le_refl _) fun b hb hb' => ?_
  dsimp only at hb hb' ⊢
  rw [String.utf8EncodeChar, toNat_val_ofNat (by omega), if_neg (by omega), if_pos (by omega),
    ofNat_eq (b := a) (by omega), ofNat_eq (b := b) (by omega)]
  rfl

theorem after_three {a : UInt8} {bits low high : Nat} (ha : a.toNat = 0xe0 + bits) (hbits : bits < 0x10)
    (hlow : 0x80 ≤ low) (hhigh : high ≤ 0xbf) (hlong : bits = 0 → 0xa0 ≤ low)
    (hsurrogate : bits = 0xd → high ≤ 0x9f) : Pending.After ⟨bits, low, high, 1⟩ [a] := by
  refine after_of_completes (by omega) hlow fun b hb hb' c hc hc' => ?_
  dsimp only at hb hb' ⊢
  rw [String.utf8EncodeChar, toNat_val_ofNat (by omega), if_neg (by omega), if_neg (by omega),
    if_pos (by omega), ofNat_eq (b := a) (by omega), ofNat_eq (b := b) (by omega),
    ofNat_eq (b := c) (by omega)]
  rfl

theorem after_four {a : UInt8} {bits low high : Nat} (ha : a.toNat = 0xf0 + bits) (hbits : bits < 5)
    (hlow : 0x80 ≤ low) (hhigh : high ≤ 0xbf) (hlong : bits = 0 → 0x90 ≤ low)
    (hlast : bits = 4 → high ≤ 0x8f) : Pending.After ⟨bits, low, high, 2⟩ [a] := by
  refine after_of_completes (by omega) hlow fun b hb hb' c hc hc' d hd hd' => ?_
  dsimp only at hb hb' ⊢
  rw [String.utf8EncodeChar, toNat_val_ofNat (by omega), if_neg (by omega), if_neg (by omega),
    if_neg (by omega), ofNat_eq (b := a) (by omega), ofNat_eq (b := b) (by omega),
    ofNat_eq (b := c) (by omega), ofNat_eq (b := d) (by omega)]
  rfl

/-- What a byte makes of the bytes before it. -/
def Scan.After (bs : List UInt8) (b : UInt8) : Scan → Prop
  | .complete c => String.utf8EncodeChar c = bs ++ [b]
  | .pending p => p.After (bs ++ [b])
  | .refused => True

theorem start_of_ascii {b : UInt8} (hb : b.toNat < 0x80) : start b = .complete (Char.ofNat b.toNat) := by
  rw [start]
  exact if_pos hb

theorem after_start (b : UInt8) : (start b).After [] b := by
  by_cases hascii : b.toNat < 0x80
  · rw [start_of_ascii hascii]
    exact utf8EncodeChar_ofNat hascii
  · rw [start]
    simp only [beq_iff_eq]
    rw [if_neg hascii]
    split
    · trivial
    · split
      · exact after_two (by omega) (by omega) (by omega)
      · split
        · exact after_three (by omega) (by omega) (by omega) (by omega) (by omega) (by omega)
        · split
          · exact after_three (by omega) (by omega) (by omega) (by omega) (by omega) (by omega)
          · split
            · exact after_three (by omega) (by omega) (by omega) (by omega) (by omega) (by omega)
            · split
              · exact after_four (by omega) (by omega) (by omega) (by omega) (by omega) (by omega)
              · split
                · exact after_four (by omega) (by omega) (by omega) (by omega) (by omega) (by omega)
                · split
                  · exact after_four (by omega) (by omega) (by omega) (by omega) (by omega) (by omega)
                  · trivial

theorem Pending.After.resume_of_ascii {p : Pending} {bs : List UInt8} (h : p.After bs) {b : UInt8}
    (hb : b.toNat < 0x80) : p.resume b = .refused := by
  have hlow := h.low
  rw [resume]
  exact if_neg (by simp; omega)

theorem Pending.After.after_resume {p : Pending} {bs : List UInt8} (h : p.After bs) (b : UInt8) :
    (p.resume b).After bs b := by
  obtain ⟨bits, low, high, more⟩ := p
  obtain ⟨-, hbs, hlow, hcompletes⟩ := h
  dsimp only at hlow hcompletes
  rw [resume]
  dsimp only
  split
  · next hrange =>
      simp only [Bool.and_eq_true, decide_eq_true_eq] at hrange
      cases more with
      | zero => exact hcompletes b hrange.1 hrange.2
      | succ more =>
          refine ⟨List.append_ne_nil_of_right_ne_nil _ (List.cons_ne_nil b []), ?_, Nat.le_refl _,
            hcompletes b hrange.1 hrange.2⟩
          intro c hc
          rcases List.mem_append.mp hc with hc | hc
          · exact hbs c hc
          · rw [List.mem_singleton.mp hc]
            omega
  · trivial

/-! ## The reader -/

/-- Whether these bytes are what a unit accounts for. -/
def Accounts : Option Char → List UInt8 → Prop
  | some c, bs => bs = String.utf8EncodeChar c
  | none, bs => bs ≠ [] ∧ ∀ b ∈ bs, 0x80 ≤ b.toNat

/-- Whether these bytes are those that were read of the sequence that a reader is in. -/
def Opened : Option Pending → List UInt8 → Prop
  | none, bs => bs = []
  | some p, bs => p.After bs

/-- Whether a reader has read these bytes: those of its units, and then those of the sequence that it is in. -/
def Reader.HasRead (r : Reader) (bs : List UInt8) : Prop :=
  ∃ parts opened, List.Forall₂ Accounts r.units.reverse parts ∧ Opened r.pending opened ∧
    bs = parts.flatten ++ opened

theorem forall₂_accounts_cons {us : List (Option Char)} {u : Option Char} {parts : List (List UInt8)}
    {part : List UInt8} (h : List.Forall₂ Accounts us.reverse parts) (hu : Accounts u part) :
    List.Forall₂ Accounts (u :: us).reverse (parts ++ [part]) := by
  rw [List.reverse_cons]
  exact List.rel_append h (.cons hu .nil)

theorem hasRead_begin {us : List (Option Char)} {parts : List (List UInt8)}
    (h : List.Forall₂ Accounts us.reverse parts) (b : UInt8) :
    (Reader.begin us b).HasRead (parts.flatten ++ [b]) := by
  have hafter := after_start b
  rw [Reader.begin]
  cases hstart : start b with
  | complete c =>
      rw [hstart] at hafter
      exact ⟨parts ++ [[b]], [], forall₂_accounts_cons h hafter.symm, rfl, by simp⟩
  | pending p =>
      rw [hstart] at hafter
      exact ⟨parts, [b], h, hafter, rfl⟩
  | refused =>
      have hb : ¬b.toNat < 0x80 := by
        intro hb
        rw [start_of_ascii hb] at hstart
        cases hstart
      have hrefused : Accounts none [b] :=
        ⟨List.cons_ne_nil b [], fun c hc => List.mem_singleton.mp hc ▸ Nat.le_of_not_lt hb⟩
      exact ⟨parts ++ [[b]], [], forall₂_accounts_cons h hrefused, rfl, by simp⟩

theorem Reader.HasRead.read {r : Reader} {bs : List UInt8} (h : r.HasRead bs) (b : UInt8) :
    (r.read b).HasRead (bs ++ [b]) := by
  obtain ⟨us, pending⟩ := r
  obtain ⟨parts, opened, hparts, hopened, rfl⟩ := h
  cases pending with
  | none =>
      obtain rfl : opened = [] := hopened
      rw [List.append_nil]
      exact hasRead_begin hparts b
  | some p =>
      have hafter : p.After opened := hopened
      have hresume := hafter.after_resume b
      rw [Reader.read]
      dsimp only
      cases hscan : p.resume b with
      | complete c =>
          rw [hscan] at hresume
          refine ⟨parts ++ [opened ++ [b]], [], forall₂_accounts_cons hparts hresume.symm, rfl, by simp⟩
      | pending q =>
          rw [hscan] at hresume
          exact ⟨parts, opened ++ [b], hparts, hresume, List.append_assoc _ _ _⟩
      | refused =>
          have hgiven := hasRead_begin
            (forall₂_accounts_cons (u := none) hparts ⟨hafter.ne_nil, hafter.not_ascii⟩) b
          rwa [List.flatten_concat] at hgiven

theorem hasRead_foldl (bs : List UInt8) : (bs.foldl Reader.read {}).HasRead bs := by
  induction bs using List.reverseRecOn with
  | nil => exact ⟨[], [], .nil, rfl, rfl⟩
  | append_singleton bs b ih =>
      rw [List.foldl_append]
      exact ih.read b

/-- Bytes are what their units account for, one after the other. -/
theorem exists_accounts_units (bs : List UInt8) :
    ∃ parts, List.Forall₂ Accounts (units bs) parts ∧ bs = parts.flatten := by
  obtain ⟨parts, opened, hparts, hopened, hbs⟩ := hasRead_foldl bs
  rw [units, Reader.finish]
  cases hpending : (bs.foldl Reader.read {}).pending with
  | none =>
      rw [hpending] at hopened
      obtain rfl : opened = [] := hopened
      exact ⟨parts, hparts, by rw [hbs, List.append_nil]⟩
  | some p =>
      rw [hpending] at hopened
      have hafter : p.After opened := hopened
      exact ⟨parts ++ [opened], forall₂_accounts_cons hparts ⟨hafter.ne_nil, hafter.not_ascii⟩, by
        rw [hbs, List.flatten_concat]⟩

/-! ## Text -/

theorem eq_map_some_of_mapM {us : List (Option Char)} {cs : List Char} (h : us.mapM id = some cs) :
    us = cs.map some := by
  induction us generalizing cs with
  | nil =>
      obtain rfl := Option.some.inj h
      rfl
  | cons u us ih =>
      rw [List.mapM_cons] at h
      obtain ⟨c, hc, h⟩ := Option.bind_eq_some_iff.mp h
      obtain ⟨cs, hcs, h⟩ := Option.bind_eq_some_iff.mp h
      obtain rfl := Option.some.inj h
      obtain rfl : u = some c := hc
      rw [ih hcs, List.map_cons]

theorem flatten_of_accounts {cs : List Char} {parts : List (List UInt8)}
    (h : List.Forall₂ Accounts (cs.map some) parts) : parts.flatten = encodeChars cs := by
  induction cs generalizing parts with
  | nil =>
      cases h
      rfl
  | cons c cs ih =>
      obtain ⟨part, parts, hpart, hparts, rfl⟩ := List.forall₂_cons_left_iff.mp h
      rw [List.flatten_cons, ih hparts, hpart]
      rfl

/-- Bytes that are read as a text are the bytes of that text. -/
theorem decode?_eq_some_iff {bs : List UInt8} {s : String} : decode? bs = some s ↔ bs = encode s := by
  constructor
  · intro h
    obtain ⟨cs, hcs, rfl⟩ := Option.map_eq_some_iff.mp h
    obtain ⟨parts, hparts, hbs⟩ := exists_accounts_units bs
    rw [eq_map_some_of_mapM hcs] at hparts
    rw [hbs, flatten_of_accounts hparts, encode, String.toList_ofList]
  · rintro rfl
    exact decode?_encode s

/-! ## Cutting at ASCII characters -/

theorem foldl_read_append (us vs : List (Option Char)) (pending : Option Pending) (bs : List UInt8) :
    bs.foldl Reader.read ⟨us ++ vs, pending⟩ =
      ⟨(bs.foldl Reader.read ⟨us, pending⟩).units ++ vs, (bs.foldl Reader.read ⟨us, pending⟩).pending⟩ := by
  induction bs generalizing us pending with
  | nil => rfl
  | cons b bs ih =>
      have hbegin : ∀ us : List (Option Char), Reader.begin (us ++ vs) b =
          ⟨(Reader.begin us b).units ++ vs, (Reader.begin us b).pending⟩ := by
        intro us
        rw [Reader.begin, Reader.begin]
        cases start b <;> rfl
      have hread : Reader.read ⟨us ++ vs, pending⟩ b =
          ⟨(Reader.read ⟨us, pending⟩ b).units ++ vs, (Reader.read ⟨us, pending⟩ b).pending⟩ := by
        cases pending with
        | none => exact hbegin us
        | some p =>
            rw [Reader.read, Reader.read]
            dsimp only
            cases p.resume b with
            | complete c => rfl
            | pending q => rfl
            | refused => exact hbegin (none :: us)
      rw [List.foldl_cons, List.foldl_cons, hread, ih]

theorem read_of_ascii {r : Reader} {bs : List UInt8} (h : r.HasRead bs) {b : UInt8} (hb : b.toNat < 0x80) :
    r.read b = ⟨some (Char.ofNat b.toNat) :: r.finish.reverse, none⟩ := by
  obtain ⟨us, pending⟩ := r
  obtain ⟨-, opened, -, hopened, -⟩ := h
  cases pending with
  | none =>
      rw [Reader.read, Reader.begin, start_of_ascii hb, Reader.finish, List.reverse_reverse]
  | some p =>
      have hafter : p.After opened := hopened
      rw [Reader.read]
      dsimp only
      rw [hafter.resume_of_ascii hb, Reader.begin, start_of_ascii hb, Reader.finish, List.reverse_reverse]

theorem finish_append (us vs : List (Option Char)) (pending : Option Pending) :
    Reader.finish ⟨us ++ vs, pending⟩ = vs.reverse ++ Reader.finish ⟨us, pending⟩ := by
  cases pending with
  | none => exact List.reverse_append
  | some p =>
      show (none :: (us ++ vs)).reverse = vs.reverse ++ (none :: us).reverse
      rw [← List.cons_append, List.reverse_append]

/-- What was read before stays in front of what is read from here. -/
theorem finish_foldl_read (us : List (Option Char)) (bs : List UInt8) :
    (bs.foldl Reader.read ⟨us, none⟩).finish = us.reverse ++ units bs := by
  have h := foldl_read_append [] us none bs
  rw [List.nil_append] at h
  rw [h, finish_append]
  rfl

/-- An ASCII character is read wherever its byte stands, whatever stands before it. -/
theorem units_append_cons (xs ys : List UInt8) {c : Char} (hc : c.toNat < 0x80) :
    units (xs ++ UInt8.ofNat c.toNat :: ys) = units xs ++ some c :: units ys := by
  have hbyte : (UInt8.ofNat c.toNat).toNat = c.toNat := toNat_ofNat_of_lt (by omega)
  have hread := read_of_ascii (hasRead_foldl xs) (b := UInt8.ofNat c.toNat) (by omega)
  rw [hbyte, Char.ofNat_toNat, ← units] at hread
  rw [units, List.foldl_append, List.foldl_cons, hread, finish_foldl_read, List.reverse_cons,
    List.reverse_reverse, List.append_assoc]
  rfl

theorem units_cons (ys : List UInt8) {c : Char} (hc : c.toNat < 0x80) :
    units (UInt8.ofNat c.toNat :: ys) = some c :: units ys :=
  units_append_cons [] ys hc

/-- An ASCII character at the start of what was read is a byte at the start of the bytes. -/
theorem exists_cons_of_units {bs : List UInt8} {c : Char} (hc : c.toNat < 0x80) {us : List (Option Char)}
    (h : units bs = some c :: us) : ∃ rest, bs = UInt8.ofNat c.toNat :: rest ∧ units rest = us := by
  obtain ⟨parts, hparts, hbs⟩ := exists_accounts_units bs
  rw [h] at hparts
  obtain ⟨part, parts, hpart, -, rfl⟩ := List.forall₂_cons_left_iff.mp hparts
  have hpart : part = [UInt8.ofNat c.toNat] := hpart.trans (utf8EncodeChar_of_ascii hc)
  rw [List.flatten_cons, hpart, List.singleton_append] at hbs
  refine ⟨parts.flatten, hbs, ?_⟩
  rw [hbs, units_cons _ hc] at h
  exact (List.cons.inj h).2

/-- And one at the end of what was read is a byte at the end of the bytes. -/
theorem exists_concat_of_units {bs : List UInt8} {c : Char} (hc : c.toNat < 0x80)
    {us : List (Option Char)} (h : units bs = us ++ [some c]) :
    ∃ front, bs = front ++ [UInt8.ofNat c.toNat] ∧ units front = us := by
  obtain ⟨parts, hparts, hbs⟩ := exists_accounts_units bs
  rw [h] at hparts
  have hreverse := List.rel_reverse hparts
  rw [List.reverse_append, List.reverse_singleton, List.singleton_append] at hreverse
  obtain ⟨part, before, hpart, -, hbefore⟩ := List.forall₂_cons_left_iff.mp hreverse
  have hpart : part = [UInt8.ofNat c.toNat] := hpart.trans (utf8EncodeChar_of_ascii hc)
  rw [← List.reverse_reverse parts, hbefore, List.reverse_cons, List.flatten_concat, hpart] at hbs
  refine ⟨before.reverse.flatten, hbs, ?_⟩
  rw [hbs, units_append_cons _ [] hc] at h
  exact List.append_inj_left' h rfl

/-! ## Characters in front -/

theorem units_utf8EncodeChar_append (c : Char) (bs : List UInt8) :
    units (String.utf8EncodeChar c ++ bs) = some c :: units bs := by
  rw [units, List.foldl_append, foldl_read_utf8EncodeChar, finish_foldl_read]
  rfl

theorem utf8EncodeChar_append_inj {c d : Char} {bs cs : List UInt8}
    (h : String.utf8EncodeChar c ++ bs = String.utf8EncodeChar d ++ cs) : c = d ∧ bs = cs := by
  have hunits := congrArg units h
  rw [units_utf8EncodeChar_append, units_utf8EncodeChar_append] at hunits
  obtain rfl : c = d := Option.some.inj (List.cons.inj hunits).1
  exact ⟨rfl, List.append_cancel_left h⟩

/-- The first byte of a character, and the later ones. -/
theorem exists_utf8EncodeChar (c : Char) : ∃ b bs, String.utf8EncodeChar c = b :: bs ∧ b.IsUTF8FirstByte ∧
    ∀ x ∈ bs, ¬x.IsUTF8FirstByte := by
  obtain ⟨b, bs, h⟩ := List.exists_cons_of_ne_nil (String.utf8EncodeChar_ne_nil (c := c))
  have hfirst {i : Nat} (hi : i < (b :: bs).length) : (b :: bs)[i].IsUTF8FirstByte ↔ i = 0 := by
    simp only [← h]
    exact UInt8.isUTF8FirstByte_getElem_utf8EncodeChar
  refine ⟨b, bs, h, (hfirst (Nat.zero_lt_succ _)).mpr rfl, fun x hx hbyte => ?_⟩
  obtain ⟨i, hi, rfl⟩ := List.getElem_of_mem hx
  exact absurd ((hfirst (Nat.succ_lt_succ hi)).mp hbyte) (Nat.succ_ne_zero i)

/-! ## Lossy reading -/

theorem toList_decodeLossy (bs : List UInt8) :
    (decodeLossy bs).toList = (units bs).map (·.getD replacement) := by
  rw [decodeLossy, String.toList_ofList]

/-- Bytes of a text are read as that text, lossy or not. -/
theorem decodeLossy_encode (s : String) : decodeLossy (encode s) = s := by
  rw [← String.toList_inj, toList_decodeLossy, units_encode, List.map_map]
  exact List.map_id s.toList

theorem decodeLossy_eq_empty_iff {bs : List UInt8} : decodeLossy bs = "" ↔ bs = [] := by
  rw [← String.toList_eq_nil_iff, toList_decodeLossy, List.map_eq_nil_iff]
  constructor
  · intro h
    obtain ⟨parts, hparts, rfl⟩ := exists_accounts_units bs
    rw [h] at hparts
    cases hparts
    rfl
  · rintro rfl
    rfl

theorem eq_some_of_getD {u : Option Char} {c : Char} (hc : c.toNat < 0x80)
    (h : u.getD replacement = c) : u = some c := by
  cases u with
  | none =>
      have hreplacement : replacement.toNat = 0xfffd := by decide
      obtain rfl : replacement = c := h
      omega
  | some d => exact congrArg some h

/-- An ASCII text in front of what was read is there in the bytes. -/
theorem decodeLossy_eq_append_iff {s rest : String} (hs : ∀ c ∈ s.toList, c.toNat < 0x80)
    {bs : List UInt8} :
    decodeLossy bs = s ++ rest ↔ ∃ more, bs = encode s ++ more ∧ decodeLossy more = rest := by
  simp only [← String.toList_inj, String.toList_append, toList_decodeLossy, encode]
  generalize s.toList = cs at hs
  induction cs generalizing bs with
  | nil => simp [encodeChars]
  | cons c cs ih =>
      obtain ⟨hc, hcs⟩ := List.forall_mem_cons.mp hs
      have hencode : encodeChars (c :: cs) = UInt8.ofNat c.toNat :: encodeChars cs := by
        rw [encodeChars, List.flatMap_cons, utf8EncodeChar_of_ascii hc]
        rfl
      constructor
      · intro h
        obtain ⟨u, us, hus, hu, htail⟩ := List.map_eq_cons_iff.mp h
        rw [eq_some_of_getD hc hu] at hus
        obtain ⟨more, rfl, rfl⟩ := exists_cons_of_units hc hus
        obtain ⟨more, rfl, hmore⟩ := (ih hcs).mp htail
        exact ⟨more, by rw [hencode]; rfl, hmore⟩
      · rintro ⟨more, rfl, hmore⟩
        rw [hencode, List.cons_append, units_cons _ hc, List.map_cons, (ih hcs).mpr ⟨more, rfl, hmore⟩]
        rfl

/-- And so is an ASCII character behind it. -/
theorem decodeLossy_eq_concat_iff {c : Char} (hc : c.toNat < 0x80) {front : String} {bs : List UInt8} :
    decodeLossy bs = front ++ String.singleton c ↔
      ∃ before, bs = before ++ [UInt8.ofNat c.toNat] ∧ decodeLossy before = front := by
  simp only [← String.toList_inj, String.toList_append, String.toList_singleton, toList_decodeLossy]
  constructor
  · intro h
    obtain ⟨us, last, hus, hfront, hlast⟩ := List.map_eq_append_iff.mp h
    obtain ⟨u, rest, rfl, hu, hrest⟩ := List.map_eq_cons_iff.mp hlast
    obtain rfl := List.map_eq_nil_iff.mp hrest
    rw [eq_some_of_getD hc hu] at hus
    obtain ⟨before, rfl, rfl⟩ := exists_concat_of_units hc hus
    exact ⟨before, rfl, hfront⟩
  · rintro ⟨before, rfl, hbefore⟩
    rw [units_append_cons before [] hc, List.map_append, hbefore]
    rfl

end TrafficShaping.Text.Utf8
