import TrafficShaping.Proofs.JsonText
import TrafficShaping.Proofs.Utf8Text

/-!
# Only texts of values are read

What is read as a value is a text of that value, so reading refuses everything else. Both steps of reading are
machines, and each is followed by saying for every state what must have been read to get there. For the frames
that is a list of tokens: those of the frames that are open, from the outermost to the innermost, and those of
the value that has just been completed. For the lexer it is a text of the tokens so far, and then a beginning of
the token that the lexer is in the middle of.
-/

namespace TrafficShaping.Json

open TrafficShaping.Number (Digit)

/-! ## The frames -/

/-- The tokens of items with a comma behind each. -/
def itemsBefore (items : List Json) : List Token := items.flatMap fun j => tokens j ++ [.comma]

/-- The tokens of members with a comma behind each. -/
def membersBefore (members : List (Literal × Json)) : List Token :=
  members.flatMap fun m => .string m.1 :: .colon :: tokens m.2 ++ [.comma]

/-- The tokens of a frame that is open, up to the value that comes next. -/
def Frame.tokens : Frame → List Token
  | .array items => .openBracket :: itemsBefore items.reverse
  | .object members => .openBrace :: membersBefore members.reverse
  | .member members key => .openBrace :: membersBefore members.reverse ++ [.string key, .colon]

def openTokens (stack : List Frame) : List Token := stack.reverse.flatMap Frame.tokens

theorem openTokens_cons (f : Frame) (stack : List Frame) :
    openTokens (f :: stack) = openTokens stack ++ f.tokens := by
  rw [openTokens, List.reverse_cons, List.flatMap_append, List.flatMap_singleton]
  rfl

theorem itemsBefore_concat (items : List Json) (j : Json) :
    itemsBefore (items ++ [j]) = itemsBefore items ++ tokens j ++ [.comma] := by
  rw [itemsBefore, List.flatMap_append, List.flatMap_singleton, List.append_assoc]
  rfl

theorem membersBefore_concat (members : List (Literal × Json)) (m : Literal × Json) :
    membersBefore (members ++ [m]) =
      membersBefore members ++ (.string m.1 :: .colon :: tokens m.2) ++ [.comma] := by
  rw [membersBefore, List.flatMap_append, List.flatMap_singleton, List.append_assoc]
  rfl

theorem itemTokens_concat (items : List Json) (j : Json) :
    itemTokens (items ++ [j]) = itemsBefore items ++ tokens j := by
  induction items with
  | nil => rfl
  | cons i items ih =>
      have hcons : itemTokens (i :: (items ++ [j])) = tokens i ++ .comma :: itemTokens (items ++ [j]) := by
        cases items <;> rfl
      rw [List.cons_append, hcons, ih]
      simp [itemsBefore]

theorem memberTokens_concat (members : List (Literal × Json)) (m : Literal × Json) :
    memberTokens (members ++ [m]) = membersBefore members ++ (.string m.1 :: .colon :: tokens m.2) := by
  induction members with
  | nil => rfl
  | cons n members ih =>
      have hcons : memberTokens (n :: (members ++ [m])) =
          .string n.1 :: .colon :: tokens n.2 ++ .comma :: memberTokens (members ++ [m]) := by
        cases members <;> rfl
      rw [List.cons_append, hcons, ih]
      simp [membersBefore]

theorem openTokens_array_cons (j : Json) (items : List Json) (stack : List Frame) :
    openTokens (.array (j :: items) :: stack) = openTokens (.array items :: stack) ++ tokens j ++ [.comma] := by
  rw [openTokens_cons, openTokens_cons, Frame.tokens, List.reverse_cons, itemsBefore_concat]
  simp [Frame.tokens]

theorem openTokens_array_close (j : Json) (items : List Json) (stack : List Frame) :
    openTokens (.array items :: stack) ++ tokens j ++ [.closeBracket] =
      openTokens stack ++ tokens (.array (j :: items).reverse) := by
  rw [openTokens_cons, tokens, List.reverse_cons, itemTokens_concat]
  simp [Frame.tokens]

theorem openTokens_object_cons (key : Literal) (j : Json) (members : List (Literal × Json))
    (stack : List Frame) : openTokens (.object ((key, j) :: members) :: stack) =
      openTokens (.member members key :: stack) ++ tokens j ++ [.comma] := by
  rw [openTokens_cons, openTokens_cons, Frame.tokens, List.reverse_cons, membersBefore_concat]
  simp [Frame.tokens]

theorem openTokens_object_close (key : Literal) (j : Json) (members : List (Literal × Json))
    (stack : List Frame) : openTokens (.member members key :: stack) ++ tokens j ++ [.closeBrace] =
      openTokens stack ++ tokens (.object ((key, j) :: members).reverse) := by
  rw [openTokens_cons, tokens, List.reverse_cons, memberTokens_concat]
  simp [Frame.tokens]

/-- Whether these tokens lead to what is awaited and to these frames. -/
inductive Walked : Awaiting → List Frame → List Token → Prop where
  | value {stack : List Frame} : Walked .value stack (openTokens stack)
  | firstItem {stack : List Frame} : Walked .firstItem (.array [] :: stack) (openTokens (.array [] :: stack))
  | firstKey {stack : List Frame} : Walked .firstKey (.object [] :: stack) (openTokens (.object [] :: stack))
  | key {members : List (Literal × Json)} {stack : List Frame} :
      Walked .key (.object members :: stack) (openTokens (.object members :: stack))
  | colon {members : List (Literal × Json)} {key : Literal} {stack : List Frame} :
      Walked .colon (.member members key :: stack) (openTokens (.object members :: stack) ++ [.string key])
  | after {j : Json} {stack : List Frame} : Walked (.after j) stack (openTokens stack ++ tokens j)

theorem walked_startValue {stack stack' : List Frame} {t : Token} {a : Awaiting}
    (h : startValue stack t = some (a, stack')) : Walked a stack' (openTokens stack ++ [t]) := by
  cases t with
  | null | bool _ | number _ | string _ =>
      obtain ⟨rfl, rfl⟩ := Prod.mk.inj (Option.some.inj h)
      exact .after
  | openBracket =>
      obtain ⟨rfl, rfl⟩ := Prod.mk.inj (Option.some.inj h)
      have hwalked : Walked .firstItem (.array [] :: stack) _ := .firstItem
      rwa [openTokens_cons] at hwalked
  | openBrace =>
      obtain ⟨rfl, rfl⟩ := Prod.mk.inj (Option.some.inj h)
      have hwalked : Walked .firstKey (.object [] :: stack) _ := .firstKey
      rwa [openTokens_cons] at hwalked
  | _ => cases h

theorem Walked.advance {a a' : Awaiting} {stack stack' : List Frame} {ts : List Token} {t : Token}
    (h : Walked a stack ts) (hstep : Json.advance a stack t = some (a', stack')) :
    Walked a' stack' (ts ++ [t]) := by
  cases h with
  | value => exact walked_startValue hstep
  | @firstItem stack =>
      by_cases ht : t = .closeBracket
      · subst ht
        obtain ⟨rfl, rfl⟩ := Prod.mk.inj (Option.some.inj hstep)
        rw [openTokens_cons, List.append_assoc]
        exact .after
      · have hstart : startValue (.array [] :: stack) t = some (a', stack') := by
          cases t <;> first | exact hstep | exact absurd rfl ht
        exact walked_startValue hstart
  | @firstKey stack =>
      cases t with
      | closeBrace =>
          obtain ⟨rfl, rfl⟩ := Prod.mk.inj (Option.some.inj hstep)
          rw [openTokens_cons, List.append_assoc]
          exact .after
      | string key =>
          obtain ⟨rfl, rfl⟩ := Prod.mk.inj (Option.some.inj hstep)
          exact .colon
      | _ => cases hstep
  | @key members stack =>
      cases t with
      | string key =>
          obtain ⟨rfl, rfl⟩ := Prod.mk.inj (Option.some.inj hstep)
          exact .colon
      | _ => cases hstep
  | @colon members key stack =>
      cases t with
      | colon =>
          obtain ⟨rfl, rfl⟩ := Prod.mk.inj (Option.some.inj hstep)
          have hwalked : Walked .value (.member members key :: stack) _ := .value
          rw [openTokens_cons, Frame.tokens] at hwalked
          rw [openTokens_cons, Frame.tokens]
          simpa using hwalked
      | _ => cases hstep
  | @after j stack =>
      cases stack with
      | nil => cases t <;> cases hstep
      | cons frame stack =>
          cases frame with
          | array items =>
              cases t with
              | comma =>
                  obtain ⟨rfl, rfl⟩ := Prod.mk.inj (Option.some.inj hstep)
                  rw [← openTokens_array_cons]
                  exact .value
              | closeBracket =>
                  obtain ⟨rfl, rfl⟩ := Prod.mk.inj (Option.some.inj hstep)
                  rw [openTokens_array_close]
                  exact .after
              | _ => cases hstep
          | object members => cases t <;> cases hstep
          | member members key =>
              cases t with
              | comma =>
                  obtain ⟨rfl, rfl⟩ := Prod.mk.inj (Option.some.inj hstep)
                  rw [← openTokens_object_cons]
                  exact .key
              | closeBrace =>
                  obtain ⟨rfl, rfl⟩ := Prod.mk.inj (Option.some.inj hstep)
                  rw [openTokens_object_close]
                  exact .after
              | _ => cases hstep

theorem walked_walk {a a' : Awaiting} {stack stack' : List Frame} {ts us : List Token}
    (h : Walked a stack ts) (hwalk : walk a stack us = some (a', stack')) : Walked a' stack' (ts ++ us) := by
  induction us generalizing a stack ts with
  | nil =>
      obtain ⟨rfl, rfl⟩ := Prod.mk.inj (Option.some.inj hwalk)
      rwa [List.append_nil]
  | cons t us ih =>
      rw [walk] at hwalk
      split at hwalk
      · next a stack hstep =>
          have hrest := ih (h.advance hstep) hwalk
          rwa [List.append_assoc] at hrest
      · cases hwalk

/-- Tokens that make up a value are its tokens. -/
theorem tokens_of_ofTokens? {ts : List Token} {j : Json} (h : ofTokens? ts = some j) : ts = tokens j := by
  obtain ⟨⟨a, stack⟩, hwalk, hcomplete⟩ := Option.bind_eq_some_iff.mp h
  have hwalked : Walked a stack ts := walked_walk .value hwalk
  dsimp only at hcomplete
  unfold complete? at hcomplete
  split at hcomplete
  · obtain rfl := Option.some.inj hcomplete
    cases hwalked
    rfl
  · cases hcomplete

/-! ## The lexer -/

theorem Literal.Spelled.concat {l : Literal} {cs bs : List UInt8} {p : Piece} (h : l.Spelled cs)
    (hp : p.Spelled bs) : Literal.Spelled (l ++ [p]) (cs ++ bs) := by
  induction h with
  | nil =>
      have hspelled := Literal.Spelled.cons hp .nil
      rwa [List.append_nil] at hspelled
  | cons hq _ ih =>
      rw [List.append_assoc]
      exact .cons hq ih

namespace Token

theorem Laid.concat {ts : List Token} {text bs : List UInt8} {t : Token} (h : Laid ts text)
    (ht : t.Spelled bs) : Laid (ts ++ [t]) (text ++ bs) := by
  induction h with
  | nil hgap =>
      have hlaid := Laid.cons hgap ht (.nil (List.forall_mem_nil _))
      rwa [List.append_nil] at hlaid
  | cons hgap hspelling _ ih =>
      rw [List.append_assoc]
      exact .cons hgap hspelling ih

theorem Laid.blank {ts : List Token} {text : List UInt8} {b : UInt8} (h : Laid ts text) (hb : b ∈ blanks) :
    Laid ts (text ++ [b]) := by
  induction h with
  | nil hgap => exact .nil (List.forall_mem_append.mpr ⟨hgap, List.forall_mem_singleton.mpr hb⟩)
  | cons hgap hspelling _ ih =>
      rw [List.append_assoc]
      exact .cons hgap hspelling ih

/-! ### Numbers -/

theorem eq_of_digitOf? {b : UInt8} {x : Digit} (h : digitOf? b = some x) : b = UInt8.ofNat (48 + x.val) := by
  unfold digitOf? at h
  split at h
  · next hb =>
      obtain rfl := Option.some.inj h
      rw [show 48 + (b.toNat - 48) = b.toNat by omega, UInt8.ofNat_toNat]
  · cases h

/-- The bytes of a number up to its exponent; digits are last first. -/
def front (negative : Bool) (whole fraction : List Digit) : List UInt8 :=
  (if negative then [0x2d] else []) ++ digitBytes whole.reverse ++
    (if fraction.isEmpty then [] else 0x2e :: digitBytes fraction.reverse)

/-- Whether digits, last first, have no zero too many in front. -/
def IsWhole (whole : List Digit) : Prop := ∃ x ds, whole.reverse = x :: ds ∧ (x.val = 0 → ds = [])

/-- What may stand in front of the digits of an exponent, and whether it makes the number smaller. -/
inductive Marked : Bool → List UInt8 → Prop where
  | unsigned {mark : UInt8} (hmark : mark = 0x65 ∨ mark = 0x45) : Marked false [mark]
  | plus {mark : UInt8} (hmark : mark = 0x65 ∨ mark = 0x45) : Marked false [mark, 0x2b]
  | minus {mark : UInt8} (hmark : mark = 0x65 ∨ mark = 0x45) : Marked true [mark, 0x2d]

/-- Whether these bytes have been read of a number. -/
inductive Digits.Opened : Digits → List UInt8 → Prop where
  | minus : Opened { phase := .minus, negative := true } [0x2d]
  | zero {negative : Bool} : Opened { phase := .zero, negative := negative, whole := [0] } (front negative [0] [])
  | whole {negative : Bool} {x : Digit} {ds : List Digit} (hx : x.val ≠ 0) :
      Opened { phase := .whole, negative := negative, whole := ds ++ [x] } (front negative (ds ++ [x]) [])
  | point {negative : Bool} {whole : List Digit} (hwhole : IsWhole whole) :
      Opened { phase := .point, negative := negative, whole := whole } (front negative whole [] ++ [0x2e])
  | fraction {negative : Bool} {whole ds : List Digit} (hwhole : IsWhole whole) (hds : ds ≠ []) :
      Opened { phase := .fraction, negative := negative, whole := whole, fraction := ds }
        (front negative whole ds)
  | mark {negative : Bool} {whole ds : List Digit} {mark : UInt8} (hwhole : IsWhole whole)
      (hmark : mark = 0x65 ∨ mark = 0x45) :
      Opened { phase := .mark, negative := negative, whole := whole, fraction := ds }
        (front negative whole ds ++ [mark])
  | sign {negative shrinks : Bool} {whole ds : List Digit} {start : List UInt8} (hwhole : IsWhole whole)
      (hstart : Marked shrinks start) :
      Opened { phase := .sign, negative := negative, whole := whole, fraction := ds, shrinks := shrinks }
        (front negative whole ds ++ start)
  | exponent {negative shrinks : Bool} {whole ds es : List Digit} {start : List UInt8}
      (hwhole : IsWhole whole) (hstart : Marked shrinks start) (hes : es ≠ []) :
      Opened { phase := .exponent, negative := negative, whole := whole, fraction := ds, shrinks := shrinks,
               exponent := TrafficShaping.Number.value es }
        (front negative whole ds ++ start ++ digitBytes es)

theorem digitBytes_concat (ds : List Digit) (x : Digit) :
    digitBytes (ds ++ [x]) = digitBytes ds ++ [UInt8.ofNat (48 + x.val)] := by
  rw [digitBytes, List.map_append]
  rfl

theorem isWhole_zero : IsWhole [0] := ⟨0, [], rfl, fun _ => rfl⟩

theorem isWhole_concat {x : Digit} (hx : x.val ≠ 0) (ds : List Digit) : IsWhole (ds ++ [x]) :=
  ⟨x, ds.reverse, by rw [List.reverse_append]; rfl, fun h => absurd h hx⟩

theorem front_whole (negative : Bool) (x : Digit) (whole : List Digit) :
    front negative (x :: whole) [] = front negative whole [] ++ [UInt8.ofNat (48 + x.val)] := by
  simp [front, digitBytes_concat]

theorem front_fraction (negative : Bool) (whole : List Digit) (x : Digit) {ds : List Digit} (hds : ds ≠ []) :
    front negative whole (x :: ds) = front negative whole ds ++ [UInt8.ofNat (48 + x.val)] := by
  simp [front, digitBytes_concat, hds]

theorem front_point (negative : Bool) (whole : List Digit) (x : Digit) :
    front negative whole [x] = front negative whole [] ++ [0x2e] ++ [UInt8.ofNat (48 + x.val)] := by
  simp [front, digitBytes]

/-- The first digit of a number. -/
theorem opened_first (negative : Bool) (x : Digit) :
    Digits.Opened { phase := if x.val = 0 then .zero else .whole, negative := negative, whole := [x] }
      (front negative [x] []) := by
  split
  · next hx =>
      obtain rfl : x = 0 := Fin.ext hx
      exact .zero
  · next hx => exact @Digits.Opened.whole negative x [] hx

theorem opened_first_exponent {negative shrinks : Bool} {whole ds : List Digit} {start : List UInt8}
    (hwhole : IsWhole whole) (hstart : Marked shrinks start) (x : Digit) :
    Digits.Opened { phase := .exponent, negative := negative, whole := whole, fraction := ds,
                    shrinks := shrinks, exponent := 10 * 0 + x.val }
      (front negative whole ds ++ start ++ [UInt8.ofNat (48 + x.val)]) :=
  @Digits.Opened.exponent negative shrinks whole ds [x] start hwhole hstart (List.cons_ne_nil x [])

theorem Digits.Opened.next_digit {d d' : Digits} {bs : List UInt8} (h : d.Opened bs) {b : UInt8} {x : Digit}
    (hdigit : digitOf? b = some x) (hstep : d.next? b = some d') : d'.Opened (bs ++ [b]) := by
  rw [next?, hdigit] at hstep
  obtain rfl := eq_of_digitOf? hdigit
  cases h with
  | zero => cases hstep
  | minus =>
      obtain rfl := Option.some.inj hstep
      exact opened_first true x
  | @whole negative y ds hy =>
      obtain rfl := Option.some.inj hstep
      rw [← front_whole]
      exact @Digits.Opened.whole negative y (x :: ds) hy
  | point hwhole =>
      obtain rfl := Option.some.inj hstep
      rw [← front_point]
      exact .fraction hwhole (List.cons_ne_nil x [])
  | fraction hwhole hds =>
      obtain rfl := Option.some.inj hstep
      rw [← front_fraction _ _ _ hds]
      exact .fraction hwhole (List.cons_ne_nil x _)
  | mark hwhole hmark =>
      obtain rfl := Option.some.inj hstep
      exact opened_first_exponent hwhole (.unsigned hmark) x
  | sign hwhole hstart =>
      obtain rfl := Option.some.inj hstep
      exact opened_first_exponent hwhole hstart x
  | exponent hwhole hstart hes =>
      obtain rfl := Option.some.inj hstep
      rw [List.append_assoc, ← digitBytes_concat, ← TrafficShaping.Number.value_append_singleton]
      exact .exponent hwhole hstart (List.append_ne_nil_of_left_ne_nil hes [x])

/-- After its integer part a number goes on with its decimal places or with its exponent. -/
theorem opened_after_whole {negative : Bool} {whole : List Digit} (hwhole : IsWhole whole) {b : UInt8}
    {d : Digits}
    (h : (if b = 0x2e then some { phase := .point, negative := negative, whole := whole }
      else if b = 0x65 ∨ b = 0x45 then some { phase := .mark, negative := negative, whole := whole }
      else none) = some d) : d.Opened (front negative whole [] ++ [b]) := by
  split at h
  · next hb =>
      obtain rfl := Option.some.inj h
      rw [hb]
      exact .point hwhole
  · split at h
    · next hmark =>
        obtain rfl := Option.some.inj h
        exact .mark hwhole hmark
    · cases h

theorem Digits.Opened.next_other {d d' : Digits} {bs : List UInt8} (h : d.Opened bs) {b : UInt8}
    (hdigit : digitOf? b = none) (hstep : d.next? b = some d') : d'.Opened (bs ++ [b]) := by
  rw [next?, hdigit] at hstep
  cases h with
  | minus | point | sign | exponent => cases hstep
  | zero => exact opened_after_whole isWhole_zero hstep
  | whole hx => exact opened_after_whole (isWhole_concat hx _) hstep
  | fraction hwhole hds =>
      dsimp only at hstep
      split at hstep
      · next hmark =>
          obtain rfl := Option.some.inj hstep
          exact .mark hwhole hmark
      · cases hstep
  | mark hwhole hmark =>
      dsimp only at hstep
      rw [List.append_assoc]
      split at hstep
      · next hb =>
          obtain rfl := Option.some.inj hstep
          rw [hb]
          exact .sign hwhole (.plus hmark)
      · split at hstep
        · next hb =>
            obtain rfl := Option.some.inj hstep
            rw [hb]
            exact .sign hwhole (.minus hmark)
        · cases hstep

theorem Digits.Opened.next {d d' : Digits} {bs : List UInt8} (h : d.Opened bs) {b : UInt8}
    (hstep : d.next? b = some d') : d'.Opened (bs ++ [b]) := by
  cases hdigit : digitOf? b with
  | none => exact h.next_other hdigit hstep
  | some x => exact h.next_digit hdigit hstep

theorem spelled_front (negative : Bool) {whole : List Digit} (hwhole : IsWhole whole) (ds : List Digit)
    {exponent : Option Int} {bs : List UInt8} (h : Number.SpelledExponent exponent bs) :
    Number.Spelled ⟨negative, whole.reverse, ds.reverse, exponent⟩ (front negative whole ds ++ bs) := by
  have hspelled : Number.Spelled ⟨negative, whole.reverse, ds.reverse, exponent⟩ _ := .mk hwhole h
  rwa [front, ← List.isEmpty_reverse]

theorem spelled_front_nil (negative : Bool) {whole : List Digit} (hwhole : IsWhole whole) (ds : List Digit) :
    Number.Spelled ⟨negative, whole.reverse, ds.reverse, none⟩ (front negative whole ds) := by
  have hspelled := spelled_front negative hwhole ds .missing
  rwa [List.append_nil] at hspelled

/-- A number that may end has been read from a spelling of it. -/
theorem Digits.Opened.finish {d : Digits} {bs : List UInt8} (h : d.Opened bs) {n : Number}
    (hn : d.finish? = some n) : n.Spelled bs := by
  cases h with
  | minus | point | mark | sign => cases hn
  | zero =>
      obtain rfl := Option.some.inj hn
      exact spelled_front_nil _ isWhole_zero []
  | whole hx =>
      obtain rfl := Option.some.inj hn
      exact spelled_front_nil _ (isWhole_concat hx _) []
  | fraction hwhole _ =>
      obtain rfl := Option.some.inj hn
      exact spelled_front_nil _ hwhole _
  | exponent hwhole hstart hes =>
      obtain rfl := Option.some.inj hn
      rw [List.append_assoc]
      cases hstart with
      | unsigned hmark => exact spelled_front _ hwhole _ (.unsigned hmark hes)
      | plus hmark => exact spelled_front _ hwhole _ (.plus hmark hes)
      | minus hmark => exact spelled_front _ hwhole _ (.minus hmark hes)

/-! ### Tokens -/

theorem mem_of_escaped? {letter b : UInt8} (h : escaped? letter = some b) : (letter, b) ∈ shortEscapes := by
  unfold escaped? at h
  split at h
  case h_9 => cases h
  all_goals
    next hletter =>
      obtain rfl := Option.some.inj h
      obtain rfl := Text.Utf8.ofNat_eq hletter.symm
      decide

/-- Whether these bytes have been read of the token that the lexer is in the middle of. -/
inductive State.Opened : State → List UInt8 → Prop where
  | between : Opened .between []
  | literal {ps : List Piece} {cs : List UInt8} (h : Literal.Spelled ps.reverse cs) :
      Opened (.literal ps) (0x22 :: cs)
  | escape {ps : List Piece} {cs : List UInt8} (h : Literal.Spelled ps.reverse cs) :
      Opened (.escape ps) (0x22 :: cs ++ [0x5c])
  | noDigit {ps : List Piece} {cs : List UInt8} (h : Literal.Spelled ps.reverse cs) :
      Opened (.unit ps 3 0) (0x22 :: cs ++ [0x5c, 0x75])
  | oneDigit {ps : List Piece} {cs : List UInt8} {a : UInt8} {w : Nat} (h : Literal.Spelled ps.reverse cs)
      (ha : Text.hexValue? a = some w) :
      Opened (.unit ps 2 w) (0x22 :: cs ++ [0x5c, 0x75, a])
  | twoDigits {ps : List Piece} {cs : List UInt8} {a b : UInt8} {w x : Nat}
      (h : Literal.Spelled ps.reverse cs) (ha : Text.hexValue? a = some w) (hb : Text.hexValue? b = some x) :
      Opened (.unit ps 1 (16 * w + x)) (0x22 :: cs ++ [0x5c, 0x75, a, b])
  | threeDigits {ps : List Piece} {cs : List UInt8} {a b c : UInt8} {w x y : Nat}
      (h : Literal.Spelled ps.reverse cs) (ha : Text.hexValue? a = some w) (hb : Text.hexValue? b = some x)
      (hc : Text.hexValue? c = some y) :
      Opened (.unit ps 0 (16 * (16 * w + x) + y)) (0x22 :: cs ++ [0x5c, 0x75, a, b, c])
  | word {t : Token} {bs rest : List UInt8} (ht : t.Spelled (bs ++ rest)) : Opened (.word rest t) bs
  | number {d : Digits} {bs : List UInt8} (h : d.Opened bs) : Opened (.number d) bs

theorem opened_of_start? {b : UInt8} {d : Digits} (h : Digits.start? b = some d) : d.Opened [b] := by
  unfold Digits.start? at h
  split at h
  · next hb =>
      obtain rfl := Option.some.inj h
      rw [hb]
      exact .minus
  · obtain ⟨x, hx, rfl⟩ := Option.map_eq_some_iff.mp h
    rw [eq_of_digitOf? hx]
    exact opened_first false x

/-- What a byte outside of any token is: white space, a token, or the first byte of one. -/
theorem between_cases {b : UInt8} {s : State} {t : Option Token} (h : between b = some (s, t)) :
    (s = .between ∧ t = none ∧ b ∈ blanks) ∨ (∃ u, s = .between ∧ t = some u ∧ u.Spelled [b]) ∨
      t = none ∧ s.Opened [b] := by
  unfold between at h
  split at h
  case h_15 =>
    obtain ⟨d, hd, heq⟩ := Option.map_eq_some_iff.mp h
    obtain ⟨rfl, rfl⟩ := Prod.mk.inj heq
    exact .inr (.inr ⟨rfl, .number (opened_of_start? hd)⟩)
  -- one byte each: four that are blank, six that are tokens, the quote, and the first letters of three words
  all_goals
    next hb =>
      obtain ⟨rfl, rfl⟩ := Prod.mk.inj (Option.some.inj h)
      obtain rfl := Text.Utf8.ofNat_eq hb.symm
      first
        | exact .inl ⟨rfl, rfl, by decide⟩
        | exact .inr (.inl ⟨_, rfl, rfl, by constructor⟩)
        | exact .inr (.inr ⟨rfl, .literal .nil⟩)
        | exact .inr (.inr ⟨rfl, .word (by constructor)⟩)

/-- Whether these bytes have been read by a lexer: a text of its tokens, and then those of the token that it is in
the middle of. -/
def HasScanned (s : State) (out : List Token) (bs : List UInt8) : Prop :=
  ∃ text opened, Laid out.reverse text ∧ s.Opened opened ∧ bs = text ++ opened

theorem hasScanned_cons {out : List Token} {text bs : List UInt8} {t : Token} (htext : Laid out.reverse text)
    (ht : t.Spelled bs) : HasScanned .between (t :: out) (text ++ bs) :=
  ⟨text ++ bs, [], by rw [List.reverse_cons]; exact htext.concat ht, .between, (List.append_nil _).symm⟩

theorem hasScanned_between {out : List Token} {text : List UInt8} (htext : Laid out.reverse text) {b : UInt8}
    {s : State} {t : Option Token} (h : between b = some (s, t)) :
    HasScanned s (t.toList ++ out) (text ++ [b]) := by
  rcases between_cases h with ⟨rfl, rfl, hb⟩ | ⟨u, rfl, rfl, hu⟩ | ⟨rfl, hopened⟩
  · exact ⟨text ++ [b], [], htext.blank hb, .between, (List.append_nil _).symm⟩
  · exact hasScanned_cons htext hu
  · exact ⟨text, [b], htext, hopened, rfl⟩

theorem hasScanned_piece {out : List Token} {text cs bs : List UInt8} {ps : List Piece} {p : Piece}
    (htext : Laid out.reverse text) (hl : Literal.Spelled ps.reverse cs) (hp : p.Spelled bs) :
    HasScanned (.literal (p :: ps)) out (text ++ (0x22 :: cs ++ bs)) := by
  refine ⟨text, 0x22 :: (cs ++ bs), htext, .literal ?_, rfl⟩
  rw [List.reverse_cons]
  exact hl.concat hp

/-- In a literal the next byte closes it, begins an escape or stands for itself. -/
theorem hasScanned_literal {out ts : List Token} {text cs : List UInt8} {ps : List Piece} {b : UInt8} {s : State}
    (htext : Laid out.reverse text) (hl : Literal.Spelled ps.reverse cs)
    (hstep : step (.literal ps) b = some (s, ts)) : HasScanned s (ts ++ out) (text ++ (0x22 :: cs ++ [b])) := by
  rw [step] at hstep
  split at hstep
  · next hb =>
      obtain ⟨rfl, rfl⟩ := Prod.mk.inj (Option.some.inj hstep)
      rw [hb]
      exact hasScanned_cons htext (.string hl)
  · next hquote =>
      split at hstep
      · next hb =>
          obtain ⟨rfl, rfl⟩ := Prod.mk.inj (Option.some.inj hstep)
          rw [hb]
          exact ⟨text, _, htext, .escape hl, rfl⟩
      · next hbackslash =>
          split at hstep
          · cases hstep
          · next hcontrol =>
              obtain ⟨rfl, rfl⟩ := Prod.mk.inj (Option.some.inj hstep)
              exact hasScanned_piece htext hl (.byte hquote hbackslash hcontrol)

theorem hasScanned_word {out ts : List Token} {text bs rest : List UInt8} {b : UInt8} {s : State} {t : Token}
    (htext : Laid out.reverse text) (ht : t.Spelled (bs ++ rest))
    (hstep : step (.word rest t) b = some (s, ts)) : HasScanned s (ts ++ out) (text ++ (bs ++ [b])) := by
  cases rest with
  | nil => cases hstep
  | cons r rest =>
      cases rest with
      | nil =>
          rw [step] at hstep
          split at hstep
          · next hb =>
              obtain ⟨rfl, rfl⟩ := Prod.mk.inj (Option.some.inj hstep)
              rw [hb]
              exact hasScanned_cons htext ht
          · cases hstep
      | cons r' rest =>
          rw [step] at hstep
          · split at hstep
            · next hb =>
                obtain ⟨rfl, rfl⟩ := Prod.mk.inj (Option.some.inj hstep)
                rw [hb]
                refine ⟨text, _, htext, .word ?_, rfl⟩
                rwa [List.append_assoc]
            · cases hstep
          · intro h
            cases h

/-- A byte that does not go on with a number ends it, and is then read as one between tokens. -/
theorem hasScanned_number {out ts : List Token} {text bs : List UInt8} {b : UInt8} {s : State} {d : Digits}
    (htext : Laid out.reverse text) (hd : d.Opened bs) (hstep : step (.number d) b = some (s, ts)) :
    HasScanned s (ts ++ out) (text ++ (bs ++ [b])) := by
  rw [step] at hstep
  split at hstep
  · next d' hnext =>
      obtain ⟨rfl, rfl⟩ := Prod.mk.inj (Option.some.inj hstep)
      exact ⟨text, _, htext, .number (hd.next hnext), rfl⟩
  · obtain ⟨n, hn, hstep⟩ := Option.bind_eq_some_iff.mp hstep
    obtain ⟨⟨s, t⟩, hbetween, heq⟩ := Option.map_eq_some_iff.mp hstep
    obtain ⟨rfl, rfl⟩ := Prod.mk.inj heq
    have hnumber : Laid (.number n :: out).reverse (text ++ bs) := by
      rw [List.reverse_cons]
      exact htext.concat (.number (hd.finish hn))
    rw [← List.append_assoc, List.append_assoc t.toList]
    exact hasScanned_between hnumber hbetween

theorem HasScanned.step {s s' : State} {out ts : List Token} {bs : List UInt8} (h : HasScanned s out bs)
    {b : UInt8} (hstep : Token.step s b = some (s', ts)) : HasScanned s' (ts ++ out) (bs ++ [b]) := by
  obtain ⟨text, opened, htext, hopened, rfl⟩ := h
  cases hopened with
  | between =>
      obtain ⟨⟨s, t⟩, hbetween, heq⟩ := Option.map_eq_some_iff.mp hstep
      obtain ⟨rfl, rfl⟩ := Prod.mk.inj heq
      rw [List.append_nil]
      exact hasScanned_between htext hbetween
  | literal hl =>
      rw [List.append_assoc]
      exact hasScanned_literal htext hl hstep
  | @escape ps cs hl =>
      rw [List.append_assoc]
      rw [Token.step] at hstep
      split at hstep
      · next hb =>
          obtain ⟨rfl, rfl⟩ := Prod.mk.inj (Option.some.inj hstep)
          rw [hb, List.append_assoc]
          exact ⟨text, _, htext, .noDigit hl, rfl⟩
      · obtain ⟨e, he, heq⟩ := Option.map_eq_some_iff.mp hstep
        obtain ⟨rfl, rfl⟩ := Prod.mk.inj heq
        rw [List.append_assoc]
        exact hasScanned_piece htext hl (.short (mem_of_escaped? he))
  | @noDigit ps cs hl =>
      obtain ⟨w, ha, heq⟩ := Option.map_eq_some_iff.mp hstep
      obtain ⟨rfl, rfl⟩ := Prod.mk.inj heq
      rw [List.append_assoc, List.append_assoc, show 16 * 0 + w = w by omega]
      exact ⟨text, _, htext, .oneDigit hl ha, rfl⟩
  | @oneDigit ps cs a w hl ha =>
      obtain ⟨x, hb, heq⟩ := Option.map_eq_some_iff.mp hstep
      obtain ⟨rfl, rfl⟩ := Prod.mk.inj heq
      rw [List.append_assoc, List.append_assoc]
      exact ⟨text, _, htext, .twoDigits hl ha hb, rfl⟩
  | @twoDigits ps cs a b w x hl ha hb =>
      obtain ⟨y, hc, heq⟩ := Option.map_eq_some_iff.mp hstep
      obtain ⟨rfl, rfl⟩ := Prod.mk.inj heq
      rw [List.append_assoc, List.append_assoc]
      exact ⟨text, _, htext, .threeDigits hl ha hb hc, rfl⟩
  | @threeDigits ps cs a b c w x y hl ha hb hc =>
      obtain ⟨z, hd, heq⟩ := Option.map_eq_some_iff.mp hstep
      obtain ⟨rfl, rfl⟩ := Prod.mk.inj heq
      rw [List.append_assoc, List.append_assoc,
        show 16 * (16 * (16 * w + x) + y) + z = 4096 * w + 256 * x + 16 * y + z by omega]
      exact hasScanned_piece htext hl (.unit ha hb hc hd)
  | word ht =>
      rw [List.append_assoc]
      exact hasScanned_word htext ht hstep
  | number hd =>
      rw [List.append_assoc]
      exact hasScanned_number htext hd hstep

theorem HasScanned.scan {s s' : State} {out out' : List Token} {bs cs : List UInt8} (h : HasScanned s out bs)
    (hscan : Token.scan s out cs = some (s', out')) : HasScanned s' out' (bs ++ cs) := by
  induction cs generalizing s out bs with
  | nil =>
      obtain ⟨rfl, rfl⟩ := Prod.mk.inj (Option.some.inj hscan)
      rwa [List.append_nil]
  | cons c cs ih =>
      rw [Token.scan] at hscan
      split at hscan
      · next s ts hstep =>
          have hrest := ih (h.step hstep) hscan
          rwa [List.append_assoc] at hrest
      · cases hscan

end Token

/-- Tokens that are read from a text are laid out in it. -/
theorem laid_of_tokens? {text : List UInt8} {ts : List Token} (h : tokens? text = some ts) :
    Token.Laid ts text := by
  obtain ⟨⟨s, out⟩, hscan, hfinish⟩ := Option.bind_eq_some_iff.mp h
  have hstart : Token.HasScanned .between [] [] := ⟨[], [], .nil (List.forall_mem_nil _), .between, rfl⟩
  obtain ⟨front, opened, hlaid, hopened, rfl⟩ := hstart.scan hscan
  cases hopened with
  | between =>
      obtain rfl := Option.some.inj hfinish
      rwa [List.append_nil]
  | number hd =>
      obtain ⟨n, hn, rfl⟩ := Option.map_eq_some_iff.mp hfinish
      rw [List.reverse_cons]
      exact hlaid.concat (.number (hd.finish hn))
  | _ => cases hfinish

/-- A text is read as a value exactly if it is a text of the value. -/
theorem parse?_eq_some_iff {text : List UInt8} {j : Json} : parse? text = some j ↔ j.Laid text := by
  refine ⟨fun h => ?_, parse?_of_laid⟩
  obtain ⟨ts, hts, hvalue⟩ := Option.bind_eq_some_iff.mp h
  obtain rfl := tokens_of_ofTokens? hvalue
  exact laid_of_tokens? hts

end TrafficShaping.Json
