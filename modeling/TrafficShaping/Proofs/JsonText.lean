import TrafficShaping.Proofs.JsonTokens
import Mathlib.Data.List.Chain

/-!
# Values as texts and back

A text of a value has the tokens of the value in their order, each in any of its spellings, and any white space
around them. Reading such a text gives the value, whichever text of it it is; the text that is written is one of
them.

The first step of reading goes by induction on the layout. What it has to see is that a number is over where its
spelling is. That holds because no two values stand next to each other among the tokens of a value: what comes
after a number is a comma or the end of what the number is in. The second step goes by induction on the value, and
there the statement carries the frames that are open around it.
-/

namespace TrafficShaping.Json

namespace Token

/-- Whether a text has these tokens, in any spelling and with any white space around them. -/
inductive Laid : List Token → List UInt8 → Prop where
  | nil {gap : List UInt8} (hgap : ∀ b ∈ gap, b ∈ blanks) : Laid [] gap
  | cons {gap spelling rest : List UInt8} {t : Token} {ts : List Token} (hgap : ∀ b ∈ gap, b ∈ blanks)
      (hspelling : t.Spelled spelling) (hrest : Laid ts rest) : Laid (t :: ts) (gap ++ spelling ++ rest)

def isNumber : Token → Bool
  | .number _ => true
  | _ => false

/-- The tokens that a number may stand before. -/
def closers : List Token := [.comma, .closeBracket, .closeBrace]

/-- Whether a token may stand before another one. -/
def Precedes (t u : Token) : Prop := t.isNumber → u ∈ closers

end Token

/-- Whether a text is one of this value. -/
def Laid (j : Json) (text : List UInt8) : Prop := Token.Laid (tokens j) text

/-- What passes from the items of an array to the array, and from the values in an object to the object, holds of
every value. -/
@[elab_as_elim]
theorem induction {motive : Json → Prop} (null : motive .null) (bool : ∀ b, motive (.bool b))
    (number : ∀ n, motive (.number n)) (string : ∀ l, motive (.string l))
    (array : ∀ items, (∀ j ∈ items, motive j) → motive (.array items))
    (object : ∀ members, (∀ m ∈ members, motive m.2) → motive (.object members)) (j : Json) : motive j :=
  match j with
  | .null => null
  | .bool b => bool b
  | .number n => number n
  | .string l => string l
  | .array items => array items fun i _ => induction null bool number string array object i
  | .object members => object members fun m hm =>
      have : sizeOf m < sizeOf members := List.sizeOf_lt_of_mem hm
      have : sizeOf m = 1 + sizeOf m.1 + sizeOf m.2 := rfl
      induction null bool number string array object m.2
termination_by sizeOf j

/-! ## The lexer -/

namespace Token

/-- The tokens of a text that has been read up to between two tokens. -/
def lex (out : List Token) (bytes : List UInt8) : Option (List Token) :=
  (scan .between out bytes).bind fun r => finish? r.1 r.2

theorem lex_append {out out' : List Token} {bs : List UInt8} (h : scan .between out bs = some (.between, out'))
    (rest : List UInt8) : lex out (bs ++ rest) = lex out' rest := by
  rw [lex, scan_append, h]
  rfl

theorem lex_gap {gap : List UInt8} (hgap : ∀ b ∈ gap, b ∈ blanks) (out : List Token) (rest : List UInt8) :
    lex out (gap ++ rest) = lex out rest := by
  refine lex_append ?_ rest
  induction gap with
  | nil => rfl
  | cons b gap ih =>
      have hstep : ∀ b ∈ blanks, step .between b = some (.between, []) := by
        simp only [blanks, List.mem_cons, List.not_mem_nil, or_false]
        rintro b (rfl | rfl | rfl | rfl) <;> rfl
      rw [scan_cons (hstep b (hgap b List.mem_cons_self))]
      exact ih fun c hc => hgap c (List.mem_cons_of_mem b hc)

/-- A number that is over is a token like those before it, for whatever follows. -/
theorem lex_of_finish? {d : Digits} {n : Number} (hd : d.finish? = some n) {rest : List UInt8}
    (hrest : ∀ b ∈ rest.head?, d.next? b = none) (out : List Token) :
    (scan (.number d) out rest).bind (fun r => finish? r.1 r.2) = lex (.number n :: out) rest := by
  cases rest with
  | nil =>
      show d.finish?.map _ = some (Token.number n :: out).reverse
      rw [hd]
      rfl
  | cons b bs =>
      have hnext : d.next? b = none := hrest b rfl
      -- the byte belongs to what follows, and is met there as if the number had already been over
      have hstep : step (.number d) b = (step .between b).map fun r => (r.1, r.2 ++ [.number n]) := by
        simp only [step, hnext, hd, Option.bind_some]
        cases between b <;> rfl
      rw [lex, scan, scan, hstep]
      cases step .between b with
      | none => rfl
      | some r =>
          simp only [Option.map_some, List.append_assoc]
          rfl

theorem lex_spelled {t : Token} {bs : List UInt8} (h : t.Spelled bs) {rest : List UInt8}
    (hrest : t.isNumber → ∀ b ∈ rest.head?, b ∈ numberEnds) (out : List Token) :
    lex out (bs ++ rest) = lex (t :: out) rest := by
  cases h with
  | @number n bs hn =>
      obtain ⟨d, hd, hscan⟩ := scan_number hn out
      rw [lex, scan_append, hscan, Option.bind_some]
      exact lex_of_finish? hd (fun b hb => next?_eq_none hd (hrest rfl b hb)) out
  | string hl => exact lex_append (scan_string hl out) rest
  | _ => exact lex_append rfl rest

/-- The white space before a token and the token begin with a byte that ends a number, if the token may stand
after one. -/
theorem mem_numberEnds_of_laid {ts : List Token} {text : List UInt8} (h : Laid ts text)
    (hts : ∀ t ∈ ts.head?, t ∈ closers) : ∀ b ∈ text.head?, b ∈ numberEnds := by
  cases h with
  | nil hgap => exact fun b hb => List.mem_append_left _ (hgap b (List.mem_of_mem_head? hb))
  | @cons gap spelling rest t ts hgap hspelling hrest =>
      cases gap with
      | cons b gap =>
          rintro b ⟨⟩
          exact List.mem_append_left _ (hgap b List.mem_cons_self)
      | nil =>
          have ht : t ∈ closers := hts t rfl
          simp only [closers, List.mem_cons, List.not_mem_nil, or_false] at ht
          rcases ht with rfl | rfl | rfl <;> cases hspelling <;> rintro b ⟨⟩ <;> decide

/-- Tokens are read from every layout of them, if none stands where it would run on into the next one. -/
theorem lex_of_laid {ts : List Token} {text : List UInt8} (h : Laid ts text) (hts : ts.IsChain Precedes)
    (out : List Token) : lex out text = some (out.reverse ++ ts) := by
  induction h generalizing out with
  | @nil gap hgap =>
      have hread := lex_gap hgap out []
      rw [List.append_nil] at hread
      rw [hread, List.append_nil]
      rfl
  | @cons gap spelling rest t ts hgap hspelling hrest ih =>
      obtain ⟨hnext, hts⟩ := List.isChain_cons.mp hts
      have hends : t.isNumber → ∀ b ∈ rest.head?, b ∈ numberEnds :=
        fun ht => mem_numberEnds_of_laid hrest fun u hu => hnext u hu ht
      rw [List.append_assoc, lex_gap hgap, lex_spelled hspelling hends, ih hts, List.reverse_cons,
        List.append_assoc]
      rfl

theorem isChain_cons {t : Token} (ht : t.isNumber = false) {ts : List Token} (hts : ts.IsChain Precedes) :
    (t :: ts).IsChain Precedes := by
  refine List.isChain_cons.mpr ⟨fun u _ hnumber => ?_, hts⟩
  rw [ht] at hnumber
  cases hnumber

theorem isChain_append_cons {ts us : List Token} {u : Token} (hts : ts.IsChain Precedes)
    (hus : (u :: us).IsChain Precedes) (hu : u ∈ closers) : (ts ++ u :: us).IsChain Precedes := by
  refine List.isChain_append.mpr ⟨hts, hus, fun t _ v hv _ => ?_⟩
  obtain rfl : u = v := Option.some.inj hv
  exact hu

theorem isChain_comma {ts us : List Token} (hts : ts.IsChain Precedes) (hus : us.IsChain Precedes) :
    (ts ++ .comma :: us).IsChain Precedes :=
  isChain_append_cons hts (isChain_cons rfl hus) (by decide)

end Token

open Token (Precedes isChain_cons isChain_append_cons isChain_comma)

theorem itemTokens_cons_cons (j j' : Json) (js : List Json) :
    itemTokens (j :: j' :: js) = tokens j ++ .comma :: itemTokens (j' :: js) := rfl

theorem memberTokens_cons_cons (key : Literal) (j : Json) (m : Literal × Json)
    (ms : List (Literal × Json)) : memberTokens ((key, j) :: m :: ms) =
      .string key :: .colon :: tokens j ++ .comma :: memberTokens (m :: ms) := rfl

/-- What holds of the tokens of items holds of the items, if it passes to two lists with a comma between them. -/
theorem itemTokens_of_comma {P : List Token → Prop} (hnil : P [])
    (hcomma : ∀ {ts us : List Token}, P ts → P us → P (ts ++ .comma :: us)) {items : List Json}
    (h : ∀ j ∈ items, P (tokens j)) : P (itemTokens items) := by
  induction items with
  | nil => exact hnil
  | cons j js ih =>
      have hfirst := h j List.mem_cons_self
      cases js with
      | nil => exact hfirst
      | cons j' js =>
          rw [itemTokens_cons_cons]
          exact hcomma hfirst (ih fun i hi => h i (List.mem_cons_of_mem j hi))

theorem memberTokens_of_comma {P : List Token → Prop} (hnil : P [])
    (hcomma : ∀ {ts us : List Token}, P ts → P us → P (ts ++ .comma :: us))
    {members : List (Literal × Json)} (h : ∀ m ∈ members, P (.string m.1 :: .colon :: tokens m.2)) :
    P (memberTokens members) := by
  induction members with
  | nil => exact hnil
  | cons m ms ih =>
      have hfirst := h m List.mem_cons_self
      cases ms with
      | nil => exact hfirst
      | cons m' ms =>
          rw [memberTokens_cons_cons]
          exact hcomma hfirst (ih fun i hi => h i (List.mem_cons_of_mem m hi))

/-- A number among the tokens of a value stands at the end or before something that ends it. -/
theorem isChain_tokens (j : Json) : (tokens j).IsChain Precedes := by
  induction j using Json.induction with
  | null | bool _ | number _ | string _ => exact List.isChain_singleton _
  | array items ih =>
      have hitems := itemTokens_of_comma .nil isChain_comma ih
      exact isChain_cons rfl (isChain_append_cons hitems (List.isChain_singleton _) (by decide))
  | object members ih =>
      have hmembers := memberTokens_of_comma .nil isChain_comma fun m hm =>
        isChain_cons rfl (isChain_cons rfl (ih m hm))
      exact isChain_cons rfl (isChain_append_cons hmembers (List.isChain_singleton _) (by decide))

theorem tokens?_of_laid {j : Json} {text : List UInt8} (h : j.Laid text) : tokens? text = some (tokens j) :=
  Token.lex_of_laid h (isChain_tokens j) []

/-! ## The frames -/

/-- At its start an array awaits what it awaits later. -/
theorem walk_firstItem (j : Json) (items : List Json) (stack : List Frame) (ts : List Token) :
    walk .firstItem (.array items :: stack) (tokens j ++ ts) =
      walk .value (.array items :: stack) (tokens j ++ ts) := by
  cases j <;> rfl

theorem walk_itemTokens {j : Json} {js : List Json} (done : List Json) (stack : List Frame)
    (ts : List Token)
    (h : ∀ i ∈ j :: js, ∀ (stack : List Frame) (ts : List Token),
      walk .value stack (tokens i ++ ts) = walk (.after i) stack ts) :
    walk .value (.array done :: stack) (itemTokens (j :: js) ++ .closeBracket :: ts) =
      walk (.after (.array (done.reverse ++ j :: js))) stack ts := by
  induction js generalizing j done with
  | nil =>
      rw [itemTokens, h j List.mem_cons_self]
      show walk (.after (.array (j :: done).reverse)) stack ts = _
      rw [List.reverse_cons]
  | cons j' js ih =>
      rw [itemTokens_cons_cons, List.append_assoc, h j List.mem_cons_self]
      show walk .value (.array (j :: done) :: stack) (itemTokens (j' :: js) ++ .closeBracket :: ts) = _
      rw [ih (j :: done) fun i hi => h i (List.mem_cons_of_mem j hi), List.reverse_cons, List.append_assoc]
      rfl

theorem walk_memberTokens {m : Literal × Json} {ms : List (Literal × Json)}
    (done : List (Literal × Json)) (stack : List Frame) (ts : List Token)
    (h : ∀ i ∈ m :: ms, ∀ (stack : List Frame) (ts : List Token),
      walk .value stack (tokens i.2 ++ ts) = walk (.after i.2) stack ts) :
    walk .key (.object done :: stack) (memberTokens (m :: ms) ++ .closeBrace :: ts) =
      walk (.after (.object (done.reverse ++ m :: ms))) stack ts := by
  induction ms generalizing m done with
  | nil =>
      show walk .value (.member done m.1 :: stack) (tokens m.2 ++ .closeBrace :: ts) = _
      rw [h m List.mem_cons_self]
      show walk (.after (.object (m :: done).reverse)) stack ts = _
      rw [List.reverse_cons]
  | cons m' ms ih =>
      rw [memberTokens_cons_cons, List.append_assoc]
      show walk .value (.member done m.1 :: stack)
        (tokens m.2 ++ (.comma :: memberTokens (m' :: ms) ++ .closeBrace :: ts)) = _
      rw [h m List.mem_cons_self]
      show walk .key (.object (m :: done) :: stack) (memberTokens (m' :: ms) ++ .closeBrace :: ts) = _
      rw [ih (m :: done) fun i hi => h i (List.mem_cons_of_mem m hi), List.reverse_cons, List.append_assoc]
      rfl

theorem walk_firstKey (m : Literal × Json) (ms : List (Literal × Json)) (stack : List Frame)
    (ts : List Token) : walk .firstKey (.object [] :: stack) (memberTokens (m :: ms) ++ ts) =
      walk .key (.object [] :: stack) (memberTokens (m :: ms) ++ ts) := by
  cases ms <;> rfl

theorem walk_tokens (j : Json) (stack : List Frame) (ts : List Token) :
    walk .value stack (tokens j ++ ts) = walk (.after j) stack ts := by
  induction j using Json.induction generalizing stack ts with
  | null | bool _ | number _ | string _ => rfl
  | array items ih =>
      rw [tokens, List.append_assoc]
      show walk .firstItem (.array [] :: stack) (itemTokens items ++ .closeBracket :: ts) = _
      cases items with
      | nil => rfl
      | cons j js =>
          refine Eq.trans ?_ (walk_itemTokens [] stack ts ih)
          cases js with
          | nil => exact walk_firstItem j [] stack _
          | cons j' js =>
              rw [itemTokens_cons_cons, List.append_assoc]
              exact walk_firstItem j [] stack _
  | object members ih =>
      rw [tokens, List.append_assoc]
      show walk .firstKey (.object [] :: stack) (memberTokens members ++ .closeBrace :: ts) = _
      cases members with
      | nil => rfl
      | cons m ms => exact (walk_firstKey m ms stack _).trans (walk_memberTokens [] stack ts ih)

/-- Every text of a value is read as the value. -/
theorem parse?_of_laid {j : Json} {text : List UInt8} (h : j.Laid text) : parse? text = some j := by
  have hwalk := walk_tokens j [] []
  rw [List.append_nil] at hwalk
  rw [parse?, tokens?_of_laid h, Option.bind_some, ofTokens?, hwalk]
  rfl

/-! ## The text that is written -/

/-- Whether all numbers and strings of a value can be written. -/
inductive Writable : Json → Prop where
  | null : Writable .null
  | bool (b : Bool) : Writable (.bool b)
  | number {n : Number} (hn : n.Writable) : Writable (.number n)
  | string {l : Literal} (hl : l.Writable) : Writable (.string l)
  | array {items : List Json} (hitems : ∀ j ∈ items, Writable j) : Writable (.array items)
  | object {members : List (Literal × Json)} (hkeys : ∀ m ∈ members, m.1.Writable)
      (hvalues : ∀ m ∈ members, Writable m.2) : Writable (.object members)

/-- Whether the bytes that are written of these tokens are spellings of them. -/
def Token.AllSpelled (ts : List Token) : Prop := ∀ t ∈ ts, t.Spelled t.bytes

theorem Token.allSpelled_nil : AllSpelled [] := List.forall_mem_nil _

theorem Token.AllSpelled.cons {t : Token} {ts : List Token} (ht : t.Spelled t.bytes) (hts : AllSpelled ts) :
    AllSpelled (t :: ts) :=
  List.forall_mem_cons.mpr ⟨ht, hts⟩

theorem Token.AllSpelled.append {ts us : List Token} (hts : AllSpelled ts) (hus : AllSpelled us) :
    AllSpelled (ts ++ us) :=
  List.forall_mem_append.mpr ⟨hts, hus⟩

open Token (AllSpelled allSpelled_nil)

theorem Writable.allSpelled {j : Json} (hj : j.Writable) : AllSpelled (tokens j) := by
  have hcomma {ts us : List Token} (hts : AllSpelled ts) (hus : AllSpelled us) :
      AllSpelled (ts ++ .comma :: us) := hts.append (.cons .comma hus)
  induction hj with
  | null => exact .cons .null allSpelled_nil
  | bool b =>
      cases b with
      | false => exact .cons .false allSpelled_nil
      | true => exact .cons .true allSpelled_nil
  | number hn => exact .cons (.number hn.spelled) allSpelled_nil
  | string hl => exact .cons (.string hl.spelled) allSpelled_nil
  | @array items _ ih =>
      have hitems : AllSpelled (itemTokens items) := itemTokens_of_comma allSpelled_nil hcomma ih
      exact .cons .openBracket (hitems.append (.cons .closeBracket allSpelled_nil))
  | @object members hkeys _ ih =>
      have hmembers : AllSpelled (memberTokens members) :=
        memberTokens_of_comma allSpelled_nil hcomma fun m hm =>
          .cons (.string (hkeys m hm).spelled) (.cons .colon (ih m hm))
      exact .cons .openBrace (hmembers.append (.cons .closeBrace allSpelled_nil))

theorem Token.laid_bytes {ts : List Token} (h : AllSpelled ts) : Laid ts (ts.flatMap Token.bytes) := by
  induction ts with
  | nil => exact .nil nofun
  | cons t ts ih =>
      obtain ⟨ht, hts⟩ := List.forall_mem_cons.mp h
      exact (Laid.cons (List.forall_mem_nil _) ht (ih hts) : Laid (t :: ts) ([] ++ t.bytes ++ _))

theorem Writable.laid_render {j : Json} (hj : j.Writable) : j.Laid (render j) :=
  Token.laid_bytes hj.allSpelled

/-- Reading undoes writing. -/
theorem parse?_render {j : Json} (hj : j.Writable) : parse? (render j) = some j :=
  parse?_of_laid hj.laid_render

end TrafficShaping.Json
