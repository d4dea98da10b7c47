import TrafficShaping.Json.Parser
import Mathlib.Data.List.Basic
import Mathlib.Data.Fintype.Basic
import Mathlib.Tactic.FinCases

/-!
# Spellings of tokens

A token can be spelled in more ways than one. A character of a string may stand for itself, be escaped by a letter
or be escaped by its number in digits of either case; an exponent is marked by either of two letters, need not have
a plus and may have zeros in front. The lexer reads every spelling as the token. It looks at one byte at a time and
needs no separators, with one exception: a number goes on for as long as it can. So a number is read only with what
follows it.

The spelling that is written is one of them, for tokens that can be written. A byte that stands for itself must not
be a quote, a backslash or a control, a one letter escape must have a letter, and a number must have digits and no
zero too many in front.
-/

namespace TrafficShaping.Json

open TrafficShaping.Number (Digit digits)

/-! ## Spellings -/

/-- The letters that escape a byte, with the bytes. -/
def shortEscapes : List (UInt8 × UInt8) :=
  [(0x22, 0x22), (0x5c, 0x5c), (0x2f, 0x2f), (0x62, 0x08), (0x66, 0x0c), (0x6e, 0x0a), (0x72, 0x0d),
    (0x74, 0x09)]

inductive Piece.Spelled : Piece → List UInt8 → Prop where
  | byte {b : UInt8} (hquote : b ≠ 0x22) (hbackslash : b ≠ 0x5c) (hcontrol : ¬b < 0x20) : Spelled (.byte b) [b]
  | short {letter b : UInt8} (h : (letter, b) ∈ shortEscapes) : Spelled (.short b) [0x5c, letter]
  | unit {a b c d : UInt8} {w x y z : Nat} (ha : Text.hexValue? a = some w) (hb : Text.hexValue? b = some x)
      (hc : Text.hexValue? c = some y) (hd : Text.hexValue? d = some z) :
      Spelled (.unit (4096 * w + 256 * x + 16 * y + z)) [0x5c, 0x75, a, b, c, d]

inductive Literal.Spelled : Literal → List UInt8 → Prop where
  | nil : Spelled [] []
  | cons {p : Piece} {l : Literal} {bs cs : List UInt8} (hp : p.Spelled bs) (hl : Spelled l cs) :
      Spelled (p :: l) (bs ++ cs)

/-- The spellings of an exponent, which may be missing. -/
inductive Number.SpelledExponent : Option Int → List UInt8 → Prop where
  | missing : SpelledExponent none []
  | unsigned {mark : UInt8} {ds : List Digit} (hmark : mark = 0x65 ∨ mark = 0x45) (hds : ds ≠ []) :
      SpelledExponent (some (TrafficShaping.Number.value ds)) (mark :: digitBytes ds)
  | plus {mark : UInt8} {ds : List Digit} (hmark : mark = 0x65 ∨ mark = 0x45) (hds : ds ≠ []) :
      SpelledExponent (some (TrafficShaping.Number.value ds)) (mark :: 0x2b :: digitBytes ds)
  | minus {mark : UInt8} {ds : List Digit} (hmark : mark = 0x65 ∨ mark = 0x45) (hds : ds ≠ []) :
      SpelledExponent (some (-TrafficShaping.Number.value ds)) (mark :: 0x2d :: digitBytes ds)

/-- Whether a number has an integer part without a zero too many in front. -/
def Number.Writable (n : Number) : Prop :=
  ∃ d ds, n.whole = d :: ds ∧ (d.val = 0 → ds = [])

inductive Number.Spelled (n : Number) : List UInt8 → Prop where
  | mk {exponent : List UInt8} (hwhole : n.Writable) (hexponent : SpelledExponent n.exponent exponent) :
      Spelled n ((if n.negative then [0x2d] else []) ++ digitBytes n.whole ++
        (if n.fraction.isEmpty then [] else 0x2e :: digitBytes n.fraction) ++ exponent)

inductive Token.Spelled : Token → List UInt8 → Prop where
  | openBracket : Spelled .openBracket [0x5b]
  | closeBracket : Spelled .closeBracket [0x5d]
  | openBrace : Spelled .openBrace [0x7b]
  | closeBrace : Spelled .closeBrace [0x7d]
  | colon : Spelled .colon [0x3a]
  | comma : Spelled .comma [0x2c]
  | null : Spelled .null [0x6e, 0x75, 0x6c, 0x6c]
  | true : Spelled (.bool true) [0x74, 0x72, 0x75, 0x65]
  | false : Spelled (.bool false) [0x66, 0x61, 0x6c, 0x73, 0x65]
  | number {n : Number} {bs : List UInt8} (h : n.Spelled bs) : Spelled (.number n) bs
  | string {l : Literal} {bs : List UInt8} (h : l.Spelled bs) : Spelled (.string l) (0x22 :: bs ++ [0x22])

namespace Token

theorem scan_append (s : State) (out : List Token) (xs ys : List UInt8) :
    scan s out (xs ++ ys) = (scan s out xs).bind fun r => scan r.1 r.2 ys := by
  induction xs generalizing s out with
  | nil => rfl
  | cons b bs ih =>
      rw [List.cons_append, scan, scan]
      cases step s b with
      | none => rfl
      | some r => exact ih _ _

theorem scan_cons {s : State} {b : UInt8} {r : State × List Token} (h : step s b = some r)
    (out : List Token) (bs : List UInt8) : scan s out (b :: bs) = scan r.1 (r.2 ++ out) bs := by
  rw [scan, h]

/-! ## Strings -/

theorem escaped?_of_mem {letter b : UInt8} (h : (letter, b) ∈ shortEscapes) :
    escaped? letter = some b ∧ letter ≠ 0x75 ∧ b.toNat < 0x80 := by
  simp only [shortEscapes, List.mem_cons, List.not_mem_nil, or_false, Prod.mk.injEq] at h
  rcases h with ⟨rfl, rfl⟩ | ⟨rfl, rfl⟩ | ⟨rfl, rfl⟩ | ⟨rfl, rfl⟩ | ⟨rfl, rfl⟩ | ⟨rfl, rfl⟩ | ⟨rfl, rfl⟩ |
    ⟨rfl, rfl⟩ <;> exact ⟨rfl, by decide, by decide⟩

theorem step_unit {ps : List Piece} {missing code h : Nat} {b : UInt8} (hb : Text.hexValue? b = some h) :
    step (.unit ps missing code) b = some (match missing with
      | 0 => (.literal (.unit (16 * code + h) :: ps), [])
      | m + 1 => (.unit ps m (16 * code + h), [])) := by
  rw [step, hb]
  cases missing <;> rfl

theorem scan_piece {p : Piece} {bs : List UInt8} (hp : p.Spelled bs) (ps : List Piece) (out : List Token) :
    scan (.literal ps) out bs = some (.literal (p :: ps), out) := by
  have hescape : step (.literal ps) 0x5c = some (.escape ps, []) := rfl
  cases hp with
  | @byte b hquote hbackslash hcontrol =>
      have hstep : step (.literal ps) b = some (.literal (.byte b :: ps), []) := by
        rw [step, if_neg hquote, if_neg hbackslash, if_neg hcontrol]
      exact scan_cons hstep out []
  | @short letter b h =>
      obtain ⟨hescaped, hunit, -⟩ := escaped?_of_mem h
      have hstep : step (.escape ps) letter = some (.literal (.short b :: ps), []) := by
        rw [step, if_neg hunit, hescaped]
        rfl
      exact (scan_cons hescape out _).trans (scan_cons hstep out [])
  | @unit a b c d w x y z ha hb hc hd =>
      have hunit : step (.escape ps) 0x75 = some (.unit ps 3 0, []) := rfl
      refine (scan_cons hescape out _).trans ((scan_cons hunit out _).trans ?_)
      refine (scan_cons (step_unit ha) out _).trans ((scan_cons (step_unit hb) out _).trans ?_)
      refine (scan_cons (step_unit hc) out _).trans ((scan_cons (step_unit hd) out _).trans ?_)
      rw [show 16 * (16 * (16 * (16 * 0 + w) + x) + y) + z = 4096 * w + 256 * x + 16 * y + z by omega]
      rfl

theorem scan_literal {l : Literal} {bs : List UInt8} (hl : l.Spelled bs) (ps : List Piece)
    (out : List Token) : scan (.literal ps) out bs = some (.literal (l.reverse ++ ps), out) := by
  induction hl generalizing ps with
  | nil => rfl
  | cons hp _ ih =>
      rw [scan_append, scan_piece hp, Option.bind_some, ih]
      simp

theorem scan_string {l : Literal} {bs : List UInt8} (hl : l.Spelled bs) (out : List Token) :
    scan .between out (0x22 :: bs ++ [0x22]) = some (.between, .string l :: out) := by
  have hopen : step .between 0x22 = some (.literal [], []) := rfl
  have hclose : step (.literal l.reverse) 0x22 = some (.between, [.string l]) := by
    rw [step, if_pos rfl, List.reverse_reverse]
  rw [List.cons_append, scan_cons hopen, scan_append, List.nil_append, scan_literal hl, List.append_nil,
    Option.bind_some, scan_cons hclose]
  rfl

/-! ## Numbers -/

theorem digitOf?_byte (x : Digit) : digitOf? (UInt8.ofNat (48 + x.val)) = some x := by
  revert x
  decide

theorem scan_number_cons {d d' : Digits} {b : UInt8} (h : d.next? b = some d') (out : List Token)
    (bs : List UInt8) : scan (.number d) out (b :: bs) = scan (.number d') out bs :=
  scan_cons (r := (.number d', [])) (by rw [step, h]) out bs

theorem scan_whole {d : Digits} (hd : d.phase = .whole) (ds : List Digit) (out : List Token) :
    scan (.number d) out (digitBytes ds) =
      some (.number { d with whole := ds.reverse ++ d.whole }, out) := by
  induction ds generalizing d with
  | nil => rfl
  | cons x ds ih =>
      have hnext : d.next? (UInt8.ofNat (48 + x.val)) = some { d with whole := x :: d.whole } := by
        rw [Digits.next?, hd, digitOf?_byte]
      rw [digitBytes, List.map_cons, scan_number_cons hnext]
      refine (ih (d := { d with whole := x :: d.whole }) hd).trans ?_
      simp

theorem scan_fraction {d : Digits} (hd : d.phase = .point ∨ d.phase = .fraction) {ds : List Digit}
    (hds : ds ≠ []) (out : List Token) : scan (.number d) out (digitBytes ds) =
      some (.number { d with phase := .fraction, fraction := ds.reverse ++ d.fraction }, out) := by
  induction ds generalizing d with
  | nil => exact absurd rfl hds
  | cons x ds ih =>
      have hnext : d.next? (UInt8.ofNat (48 + x.val)) =
          some { d with phase := .fraction, fraction := x :: d.fraction } := by
        rw [Digits.next?, digitOf?_byte]
        rcases hd with hd | hd <;> rw [hd]
      rw [digitBytes, List.map_cons, scan_number_cons hnext]
      cases ds with
      | nil => rfl
      | cons y ds =>
          refine (ih (.inr rfl) (List.cons_ne_nil y ds)).trans ?_
          simp

theorem scan_exponent {d : Digits} (hd : d.phase = .mark ∨ d.phase = .sign ∨ d.phase = .exponent)
    {ds : List Digit} (hds : ds ≠ []) (out : List Token) : scan (.number d) out (digitBytes ds) =
      some (.number { d with
        phase := .exponent, exponent := ds.foldl (fun n x => 10 * n + x.val) d.exponent }, out) := by
  induction ds generalizing d with
  | nil => exact absurd rfl hds
  | cons x ds ih =>
      have hnext : d.next? (UInt8.ofNat (48 + x.val)) =
          some { d with phase := .exponent, exponent := 10 * d.exponent + x.val } := by
        rw [Digits.next?, digitOf?_byte]
        rcases hd with hd | hd | hd <;> rw [hd]
      rw [digitBytes, List.map_cons, scan_number_cons hnext]
      cases ds with
      | nil => rfl
      | cons y ds => exact ih (.inr (.inr rfl)) (List.cons_ne_nil y ds)

theorem between_digit (x : Digit) : between (UInt8.ofNat (48 + x.val)) =
    some (.number { phase := if x.val = 0 then .zero else .whole, whole := [x] }, none) := by
  fin_cases x <;> rfl

/-- The integer part of a number and its sign. -/
theorem scan_sign_whole {n : Number} (hn : n.Writable) (out : List Token) :
    ∃ phase : Phase, (phase = .zero ∨ phase = .whole) ∧
      scan .between out ((if n.negative then [0x2d] else []) ++ digitBytes n.whole) =
        some (.number { phase := phase, negative := n.negative, whole := n.whole.reverse }, out) := by
  obtain ⟨x, ds, hwhole, hzero⟩ := hn
  let first : Digits :=
    { phase := if x.val = 0 then .zero else .whole, negative := n.negative, whole := [x] }
  have hfirst : scan .between out ((if n.negative then [0x2d] else []) ++ digitBytes n.whole) =
      scan (.number first) out (digitBytes ds) := by
    rw [hwhole]
    show _ = scan (.number { first with negative := n.negative }) out _
    cases n.negative with
    | true =>
        let minus : Digits := { phase := .minus, negative := true }
        have hminus : step .between 0x2d = some (.number minus, []) := rfl
        have hnext : minus.next? (UInt8.ofNat (48 + x.val)) = some { first with negative := true } := by
          rw [Digits.next?, digitOf?_byte]
        exact (scan_cons hminus _ _).trans (scan_number_cons hnext out _)
    | false =>
        have hstep : step .between (UInt8.ofNat (48 + x.val)) =
            some (.number { first with negative := false }, []) := by
          rw [step, between_digit]
          rfl
        exact scan_cons hstep out _
  rw [hfirst]
  -- after the digit zero there is nothing more, after another one the digits go on
  by_cases hx : x.val = 0
  · refine ⟨.zero, .inl rfl, ?_⟩
    obtain rfl : x = 0 := Fin.ext hx
    rw [hwhole, hzero rfl]
    rfl
  · refine ⟨.whole, .inr rfl, ?_⟩
    have hphase : first.phase = .whole := if_neg hx
    rw [scan_whole hphase, hwhole, List.reverse_cons]
    show some (State.number { first with phase := first.phase, whole := ds.reverse ++ [x] }, out) = _
    rw [hphase]

/-- The decimal places of a number, if it has any. -/
theorem scan_point_fraction (n : Number) {phase : Phase} (hphase : phase = .zero ∨ phase = .whole)
    (out : List Token) :
    ∃ last : Phase, (last = .zero ∨ last = .whole ∨ last = .fraction) ∧
      scan (.number { phase := phase, negative := n.negative, whole := n.whole.reverse }) out
          (if n.fraction.isEmpty then [] else 0x2e :: digitBytes n.fraction) =
        some (.number { phase := last, negative := n.negative, whole := n.whole.reverse,
                        fraction := n.fraction.reverse }, out) := by
  cases hfraction : n.fraction with
  | nil => exact ⟨phase, by rcases hphase with h | h <;> simp [h], rfl⟩
  | cons x ds =>
      refine ⟨.fraction, .inr (.inr rfl), ?_⟩
      have hpoint : Digits.next?
          { phase := phase, negative := n.negative, whole := n.whole.reverse } 0x2e =
            some { phase := .point, negative := n.negative, whole := n.whole.reverse } := by
        rcases hphase with rfl | rfl <;> rfl
      refine (scan_number_cons hpoint out _).trans ?_
      refine (scan_fraction (.inl rfl) (List.cons_ne_nil x ds) out).trans ?_
      rw [List.append_nil]

/-- The exponent of a number, if it has one, and with it the end of the number. -/
theorem scan_mark_exponent (n : Number) {bs : List UInt8} (hexponent : Number.SpelledExponent n.exponent bs)
    {phase : Phase} (hphase : phase = .zero ∨ phase = .whole ∨ phase = .fraction) (out : List Token) :
    ∃ d : Digits, d.finish? = some n ∧
      scan (.number { phase := phase, negative := n.negative, whole := n.whole.reverse,
                      fraction := n.fraction.reverse }) out bs = some (.number d, out) := by
  obtain ⟨negative, whole, fraction, exponent⟩ := n
  dsimp only at hexponent
  let read : Digits :=
    { phase := phase, negative := negative, whole := whole.reverse, fraction := fraction.reverse }
  have hmark {mark : UInt8} (h : mark = 0x65 ∨ mark = 0x45) :
      read.next? mark = some { read with phase := .mark } := by
    rcases h with rfl | rfl <;> rcases hphase with rfl | rfl | rfl <;> rfl
  have hsign {sign : UInt8} (h : sign = 0x2b ∨ sign = 0x2d) : Digits.next? { read with phase := .mark } sign =
      some { read with phase := .sign, shrinks := decide (sign = 0x2d) } := by
    rcases h with rfl | rfl <;> rfl
  cases hexponent with
  | missing =>
      refine ⟨_, ?_, rfl⟩
      rw [Digits.finish?]
      rcases hphase with rfl | rfl | rfl <;> simp
  | unsigned h hds =>
      refine ⟨_, ?_, (scan_number_cons (hmark h) out _).trans (scan_exponent (.inl rfl) hds out)⟩
      simp [Digits.finish?, read, TrafficShaping.Number.value]
  | plus h hds =>
      refine ⟨_, ?_, (scan_number_cons (hmark h) out _).trans
        ((scan_number_cons (hsign (.inl rfl)) out _).trans (scan_exponent (.inr (.inl rfl)) hds out))⟩
      simp [Digits.finish?, read, TrafficShaping.Number.value]
  | minus h hds =>
      refine ⟨_, ?_, (scan_number_cons (hmark h) out _).trans
        ((scan_number_cons (hsign (.inr rfl)) out _).trans (scan_exponent (.inr (.inl rfl)) hds out))⟩
      simp [Digits.finish?, read, TrafficShaping.Number.value]

theorem scan_number {n : Number} {bs : List UInt8} (hn : n.Spelled bs) (out : List Token) :
    ∃ d : Digits, d.finish? = some n ∧ scan .between out bs = some (.number d, out) := by
  obtain ⟨hwritable, hspelled⟩ := hn
  obtain ⟨phase, hphase, hwhole⟩ := scan_sign_whole hwritable out
  obtain ⟨last, hlast, hfraction⟩ := scan_point_fraction n hphase out
  obtain ⟨d, hd, hexponent⟩ := scan_mark_exponent n hspelled hlast out
  refine ⟨d, hd, ?_⟩
  rw [scan_append, scan_append, hwhole, Option.bind_some, hfraction, Option.bind_some, hexponent]

/-- White space. -/
def blanks : List UInt8 := [0x20, 0x09, 0x0a, 0x0d]

/-- What can stand behind a number: white space, and what goes on with the value that the number is in. -/
def numberEnds : List UInt8 := blanks ++ [0x2c, 0x5d, 0x7d]

/-- A number that may end does end before a byte that goes on with something else. -/
theorem next?_eq_none {d : Digits} {n : Number} (hd : d.finish? = some n) {b : UInt8}
    (hb : b ∈ numberEnds) : d.next? b = none := by
  obtain ⟨hdigit, hpoint, hmark⟩ : digitOf? b = none ∧ b ≠ 0x2e ∧ ¬(b = 0x65 ∨ b = 0x45) := by
    simp only [numberEnds, blanks, List.cons_append, List.nil_append, List.mem_cons, List.not_mem_nil,
      or_false] at hb
    rcases hb with rfl | rfl | rfl | rfl | rfl | rfl | rfl <;> decide
  obtain ⟨phase⟩ := d
  cases phase <;> simp_all [Digits.next?, Digits.finish?]

end Token

/-! ## What is written -/

/-- Whether the bytes that are written of a piece are a spelling of it. -/
def Piece.Writable : Piece → Prop
  | .byte b => b ≠ 0x22 ∧ b ≠ 0x5c ∧ ¬b < 0x20
  | .short b => b ∈ [0x22, 0x5c, 0x08, 0x09, 0x0a, 0x0c, 0x0d]
  | .unit c => c < 0x10000

def Literal.Writable (l : Literal) : Prop := ∀ p ∈ l, p.Writable

theorem hexValue?_hexByte {n : Nat} (h : n < 16) : Text.hexValue? (hexByte n) = some n := by
  have hall : ∀ i : Fin 16, Text.hexValue? (hexByte i) = some i.val := by decide
  exact hall ⟨n, h⟩

theorem Piece.Writable.spelled {p : Piece} (h : p.Writable) : p.Spelled p.bytes := by
  cases p with
  | byte b => exact .byte h.1 h.2.1 h.2.2
  | short b =>
      simp only [Writable, List.mem_cons, List.not_mem_nil, or_false] at h
      rcases h with rfl | rfl | rfl | rfl | rfl | rfl | rfl <;> exact .short (by decide)
  | unit c =>
      have hc : c < 0x10000 := h
      have hspelled : Spelled _ (Piece.unit c).bytes := .unit
        (hexValue?_hexByte (Nat.mod_lt (c / 4096) (by decide)))
        (hexValue?_hexByte (Nat.mod_lt (c / 256) (by decide)))
        (hexValue?_hexByte (Nat.mod_lt (c / 16) (by decide)))
        (hexValue?_hexByte (Nat.mod_lt c (by decide)))
      rwa [show 4096 * (c / 4096 % 16) + 256 * (c / 256 % 16) + 16 * (c / 16 % 16) + c % 16 = c by omega]
        at hspelled

theorem Literal.Writable.spelled {l : Literal} (h : l.Writable) : l.Spelled (l.flatMap Piece.bytes) := by
  induction l with
  | nil => exact .nil
  | cons p l ih =>
      rw [List.flatMap_cons]
      exact .cons (h p List.mem_cons_self).spelled (ih fun q hq => h q (List.mem_cons_of_mem p hq))

theorem Number.Writable.spelled {n : Number} (h : n.Writable) : n.Spelled n.bytes := by
  refine .mk h ?_
  obtain ⟨negative, whole, fraction, exponent⟩ := n
  cases exponent with
  | none => exact .missing
  | some e =>
      have hds := TrafficShaping.Number.digits_ne_nil e.natAbs
      have hvalue := TrafficShaping.Number.value_digits e.natAbs
      dsimp only
      split
      · next he =>
          have hspelled := SpelledExponent.minus (.inl rfl) hds
          rwa [hvalue, show -(e.natAbs : Int) = e by omega] at hspelled
      · next he =>
          have hspelled := SpelledExponent.plus (.inl rfl) hds
          rwa [hvalue, show (e.natAbs : Int) = e by omega] at hspelled

end TrafficShaping.Json
