import TrafficShaping.Text.Blank
import Mathlib.Data.List.Induction
import Mathlib.Data.List.TakeWhile

/-!
# Words and trimming

A value is trimmed before it is remembered and cut into words before it goes onto a command line. The two
agree, because blanks at the ends of a text never touch a word: a blank in front only opens an empty piece,
one behind only closes one, and empty pieces are no words.

Nor do they disagree on what is no value. A text has no words exactly if nothing is left of it when it is
trimmed, and a text whose only word is the hyphen is, trimmed, the hyphen.

What is left of a text can be told without trimming: blanks stand around it, and none of them is its own.
There is only one such part, so a text that is no longer than what is left of it has nothing around it.
-/

namespace TrafficShaping.Text

/-- The words of a text, as lists of characters. -/
def wordChars (cs : List Char) : List (List Char) :=
  (pieces isBlank cs).filter (!·.isEmpty)

theorem words_eq (s : String) : words s = (wordChars s.toList).map String.ofList := rfl

theorem wordChars_cons_of_blank {c : Char} (h : isBlank c) (cs : List Char) :
    wordChars (c :: cs) = wordChars cs := by
  rw [wordChars, pieces_cons, if_pos h]
  rfl

theorem growFirst_append {α : Type} (c : α) {ps : List (List α)} (qs : List (List α)) (h : ps ≠ []) :
    growFirst c (ps ++ qs) = growFirst c ps ++ qs := by
  cases ps with
  | nil => exact absurd rfl h
  | cons p ps => rfl

/-- A separator cuts a list in two and belongs to neither part. -/
theorem pieces_append_cons {α : Type} {p : α → Bool} {c : α} (h : p c) (cs ds : List α) :
    pieces p (cs ++ c :: ds) = pieces p cs ++ pieces p ds := by
  induction cs with
  | nil => rw [List.nil_append, pieces_cons, if_pos h]; rfl
  | cons d cs ih =>
      rw [List.cons_append, pieces_cons, pieces_cons, ih]
      split
      · rfl
      · exact growFirst_append d _ (pieces_ne_nil p cs)

theorem wordChars_append_cons {b : Char} (h : isBlank b) (cs ds : List Char) :
    wordChars (cs ++ b :: ds) = wordChars cs ++ wordChars ds := by
  rw [wordChars, pieces_append_cons h, List.filter_append]
  rfl

theorem wordChars_append_of_blank {c : Char} (h : isBlank c) (cs : List Char) :
    wordChars (cs ++ [c]) = wordChars cs := by
  rw [wordChars_append_cons h]
  exact List.append_nil _

theorem wordChars_dropWhile (cs : List Char) :
    wordChars (cs.dropWhile isBlank) = wordChars cs := by
  induction cs with
  | nil => rfl
  | cons c cs ih =>
      rw [List.dropWhile_cons]
      split
      · next h => rw [ih, wordChars_cons_of_blank h]
      · rfl

theorem dropEnd_append_singleton {α : Type} (p : α → Bool) (cs : List α) (c : α) :
    dropEnd p (cs ++ [c]) = if p c then dropEnd p cs else cs ++ [c] := by
  rw [dropEnd, List.reverse_append, List.reverse_singleton, List.singleton_append,
    List.dropWhile_cons]
  split
  · rfl
  · rw [List.reverse_cons, List.reverse_reverse]

theorem wordChars_dropEnd (cs : List Char) : wordChars (dropEnd isBlank cs) = wordChars cs := by
  induction cs using List.reverseRecOn with
  | nil => rfl
  | append_singleton cs c ih =>
      rw [dropEnd_append_singleton]
      split
      · next h => rw [ih, wordChars_append_of_blank h]
      · rfl

theorem words_trim (s : String) : words (trim s) = words s := by
  rw [words_eq, words_eq, trim, String.toList_ofList, trimChars, wordChars_dropEnd,
    wordChars_dropWhile]

/-! ## Trimmed texts

A text that neither begins nor ends with a blank is its own trimmed text, and its words can be counted: if
it holds a blank at all, there is a word on either side of it. -/

/-- Whether a text neither begins nor ends with a blank. -/
structure Trimmed (cs : List Char) : Prop where
  head : ∀ c, cs.head? = some c → isBlank c = false
  last : ∀ c, cs.getLast? = some c → isBlank c = false

theorem dropEnd_prefix {α : Type} (p : α → Bool) (cs : List α) : dropEnd p cs <+: cs := by
  rw [dropEnd, ← List.reverse_suffix, List.reverse_reverse]
  exact List.dropWhile_suffix p

theorem not_of_head?_dropWhile {α : Type} {p : α → Bool} {cs : List α} {c : α}
    (h : (cs.dropWhile p).head? = some c) : p c = false := by
  have hnot := List.head?_dropWhile_not p cs
  rwa [h] at hnot

theorem not_of_getLast?_dropEnd {α : Type} {p : α → Bool} {cs : List α} {c : α}
    (h : (dropEnd p cs).getLast? = some c) : p c = false := by
  rw [dropEnd, List.getLast?_reverse] at h
  exact not_of_head?_dropWhile h

theorem trimmed_trimChars (cs : List Char) : Trimmed (trimChars cs) where
  head c h := by
    obtain ⟨rest, hrest⟩ := dropEnd_prefix isBlank (cs.dropWhile isBlank)
    have hhead : (cs.dropWhile isBlank).head? = some c := by
      rw [← hrest, List.head?_append, ← trimChars, h]
      rfl
    exact not_of_head?_dropWhile hhead
  last _ h := not_of_getLast?_dropEnd h

theorem dropWhile_eq_self {α : Type} {p : α → Bool} {cs : List α}
    (h : ∀ c, cs.head? = some c → p c = false) : cs.dropWhile p = cs := by
  cases cs with
  | nil => rfl
  | cons c cs => exact List.dropWhile_cons_of_neg (by rw [h c rfl]; exact Bool.false_ne_true)

theorem dropEnd_eq_self {α : Type} {p : α → Bool} {cs : List α}
    (h : ∀ c, cs.getLast? = some c → p c = false) : dropEnd p cs = cs := by
  rw [dropEnd, dropWhile_eq_self (by rwa [List.head?_reverse]), List.reverse_reverse]

theorem Trimmed.trimChars_eq {cs : List Char} (h : Trimmed cs) : trimChars cs = cs := by
  rw [trimChars, dropWhile_eq_self h.head, dropEnd_eq_self h.last]

theorem exists_dropEnd {α : Type} (p : α → Bool) (cs : List α) :
    ∃ dropped, cs = dropEnd p cs ++ dropped ∧ ∀ c ∈ dropped, p c := by
  refine ⟨(cs.reverse.takeWhile p).reverse, ?_, ?_⟩
  · rw [dropEnd, ← List.reverse_append, List.takeWhile_append_dropWhile, List.reverse_reverse]
  · intro c hc
    exact List.all_eq_true.mp List.all_takeWhile c (List.mem_reverse.mp hc)

theorem dropEnd_append_of_all {α : Type} {p : α → Bool} {ds : List α} (h : ∀ d ∈ ds, p d) (cs : List α) :
    dropEnd p (cs ++ ds) = dropEnd p cs := by
  have hreverse : ∀ d ∈ ds.reverse, p d := fun d hd => h d (List.mem_reverse.mp hd)
  rw [dropEnd, List.reverse_append, List.dropWhile_append_of_pos hreverse, dropEnd]

theorem prefix_dropEnd {α : Type} {p : α → Bool} {cs : List α}
    (h : ∀ c, cs.getLast? = some c → p c = false) (ds : List α) : cs <+: dropEnd p (cs ++ ds) := by
  induction ds using List.reverseRecOn with
  | nil => exact ⟨[], by rw [List.append_nil, dropEnd_eq_self h]⟩
  | append_singleton ds d ih =>
      rw [← List.append_assoc, dropEnd_append_singleton]
      split
      · exact ih
      · rw [List.append_assoc]
        exact List.prefix_append cs _

/-- Trimming does not reach a trimmed beginning. -/
theorem Trimmed.prefix_trimChars {cs : List Char} (h : Trimmed cs) (ds : List Char) :
    cs <+: trimChars (cs ++ ds) := by
  cases cs with
  | nil => exact List.nil_prefix
  | cons c cs =>
      have hhead : ∀ d, (c :: cs ++ ds).head? = some d → isBlank d = false := h.head
      rw [trimChars, dropWhile_eq_self hhead]
      exact prefix_dropEnd h.last ds

theorem trim_trim (s : String) : trim (trim s) = trim s := by
  rw [trim, trim, String.toList_ofList, (trimmed_trimChars s.toList).trimChars_eq]

/-- Whether a text is what is left of another one without the blanks at its ends. -/
structure IsTrimOf (v s : String) : Prop where
  trimmed : Trimmed v.toList
  around : ∃ front back : List Char, s.toList = front ++ v.toList ++ back ∧
    (∀ c ∈ front, isBlank c) ∧ ∀ c ∈ back, isBlank c

theorem isTrimOf_trim (s : String) : IsTrimOf (trim s) s where
  trimmed := by
    rw [trim, String.toList_ofList]
    exact trimmed_trimChars s.toList
  around := by
    obtain ⟨back, hback, hblank⟩ := exists_dropEnd isBlank (s.toList.dropWhile isBlank)
    refine ⟨s.toList.takeWhile isBlank, back, ?_, List.all_eq_true.mp List.all_takeWhile, hblank⟩
    rw [trim, String.toList_ofList, trimChars, List.append_assoc, ← hback, List.takeWhile_append_dropWhile]

theorem Trimmed.trimChars_around {cs front back : List Char} (h : Trimmed cs)
    (hfront : ∀ c ∈ front, isBlank c) (hback : ∀ c ∈ back, isBlank c) :
    trimChars (front ++ cs ++ back) = cs := by
  rw [trimChars, List.append_assoc, List.dropWhile_append_of_pos hfront]
  cases cs with
  | nil =>
      rw [List.nil_append, List.dropWhile_eq_nil_iff.mpr hback]
      rfl
  | cons c cs =>
      have hhead : ∀ d, (c :: cs ++ back).head? = some d → isBlank d = false := h.head
      rw [dropWhile_eq_self hhead, dropEnd_append_of_all hback, dropEnd_eq_self h.last]

theorem trim_eq_iff {s v : String} : trim s = v ↔ IsTrimOf v s := by
  constructor
  · rintro rfl
    exact isTrimOf_trim s
  · rintro ⟨htrimmed, front, back, hs, hfront, hback⟩
    rw [trim, hs, htrimmed.trimChars_around hfront hback, String.ofList_toList]

theorem trim_eq_self_iff {s : String} : trim s = s ↔ Trimmed s.toList := by
  constructor
  · intro h
    exact (trim_eq_iff.mp h).trimmed
  · intro h
    rw [trim, h.trimChars_eq, String.ofList_toList]

/-- Trimming shortens every text that it changes. -/
theorem utf8ByteSize_trim_eq_iff {s : String} : (trim s).utf8ByteSize = s.utf8ByteSize ↔ trim s = s := by
  constructor
  · intro hsize
    obtain ⟨front, back, hs, -⟩ := (isTrimOf_trim s).around
    have happend : s = String.ofList front ++ trim s ++ String.ofList back := by
      rw [← String.toList_inj, String.toList_append, String.toList_append, String.toList_ofList,
        String.toList_ofList, hs]
    have hsum := congrArg String.utf8ByteSize happend
    rw [String.utf8ByteSize_append, String.utf8ByteSize_append] at hsum
    have hfront : String.ofList front = "" := String.utf8ByteSize_eq_zero_iff.mp (by omega)
    have hback : String.ofList back = "" := String.utf8ByteSize_eq_zero_iff.mp (by omega)
    rw [hfront, hback, String.empty_append, String.append_empty] at happend
    exact happend.symm
  · intro h
    rw [h]

theorem pieces_of_not {α : Type} {p : α → Bool} {cs : List α} (h : ∀ c ∈ cs, p c = false) :
    pieces p cs = [cs] := by
  induction cs with
  | nil => rfl
  | cons c cs ih =>
      have hc : p c = false := h c List.mem_cons_self
      rw [pieces_cons, hc, ih fun d hd => h d (List.mem_cons_of_mem _ hd)]
      rfl

theorem wordChars_of_not_blank {cs : List Char} (h : ∀ c ∈ cs, isBlank c = false) (hne : cs ≠ []) :
    wordChars cs = [cs] := by
  rw [wordChars, pieces_of_not h]
  exact List.filter_cons_of_pos (by simpa using hne)

/-- A character that is not blank belongs to a word. -/
theorem wordChars_ne_nil {c : Char} {cs : List Char} (hc : c ∈ cs) (h : isBlank c = false) :
    wordChars cs ≠ [] := by
  induction cs with
  | nil => cases hc
  | cons d cs ih =>
      cases hd : isBlank d with
      | true =>
          rw [wordChars_cons_of_blank hd]
          refine ih ((List.mem_cons.mp hc).resolve_left ?_)
          rintro rfl
          rw [h] at hd
          cases hd
      | false =>
          rw [wordChars, pieces_cons, hd]
          cases pieces isBlank cs <;> exact List.cons_ne_nil _ _

theorem Trimmed.wordChars_eq_nil_iff {cs : List Char} (h : Trimmed cs) :
    wordChars cs = [] ↔ cs = [] := by
  constructor
  · intro hwords
    cases cs with
    | nil => rfl
    | cons c cs => exact absurd hwords (wordChars_ne_nil List.mem_cons_self (h.head c rfl))
  · rintro rfl
    rfl

/-- A trimmed text of one word is that word. -/
theorem Trimmed.eq_of_wordChars {cs word : List Char} (h : Trimmed cs) (hword : wordChars cs = [word]) :
    cs = word := by
  have hne : cs ≠ [] := by
    rintro rfl
    cases hword
  by_cases hblank : ∃ b ∈ cs, isBlank b = true
  · obtain ⟨b, hb, hblank⟩ := hblank
    obtain ⟨front, back, rfl⟩ := List.append_of_mem hb
    -- there is a word before the blank and one after it, since a trimmed text neither begins nor ends with it
    have hfront : wordChars front ≠ [] := by
      cases front with
      | nil =>
          have hhead := h.head b rfl
          rw [hblank] at hhead
          cases hhead
      | cons c front => exact wordChars_ne_nil List.mem_cons_self (h.head c rfl)
    have hback : wordChars back ≠ [] := by
      induction back using List.reverseRecOn with
      | nil =>
          have hlast := h.last b List.getLast?_concat
          rw [hblank] at hlast
          cases hlast
      | append_singleton back c _ =>
          refine wordChars_ne_nil List.mem_concat_self (h.last c ?_)
          rw [← List.cons_append, ← List.append_assoc]
          exact List.getLast?_concat
    have htwo := congrArg List.length hword
    rw [wordChars_append_cons hblank, List.length_append] at htwo
    have := List.length_pos_iff.mpr hfront
    have := List.length_pos_iff.mpr hback
    simp only [List.length_singleton] at htwo
    omega
  · have hwhole := wordChars_of_not_blank (fun c hc => by simpa using fun hb => hblank ⟨c, hc, hb⟩) hne
    rw [hwhole] at hword
    exact List.head_eq_of_cons_eq hword

theorem words_eq_nil_iff {s : String} : words s = [] ↔ trim s = "" := by
  rw [← words_trim, words_eq, List.map_eq_nil_iff, trim, String.toList_ofList,
    (trimmed_trimChars s.toList).wordChars_eq_nil_iff, String.ofList_eq_empty_iff]

/-- A text of one word is that word with blanks around it. -/
theorem trim_eq_of_words_eq_singleton {s word : String} (h : words s = [word]) : trim s = word := by
  rw [← words_trim, words_eq] at h
  obtain ⟨chars, hchars, rfl⟩ := List.map_eq_singleton_iff.mp h
  rw [trim, String.toList_ofList] at hchars
  rw [trim, (trimmed_trimChars s.toList).eq_of_wordChars hchars]

end TrafficShaping.Text
