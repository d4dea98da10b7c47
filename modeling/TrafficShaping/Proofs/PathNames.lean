import TrafficShaping.Proofs.UrlEscapes
import TrafficShaping.Proofs.Words
import Mathlib.Data.List.TakeDrop

/-!
# Paths that are made of names

A text that is written into a path is one of its segments as long as nothing in it cuts a path or ends one. It may
still mean a place instead of being the name of something, and a place may be written with its dots escaped. But
no text without a percent sign is a way to write a place once it is escaped: without the escapes it is itself
again, and then it would have to be the dots.

So a reference that is made of names keeps all of them, and whoever cuts the path and takes the escapes out of the
segments finds them.
-/

namespace TrafficShaping.Url

open Text (pieces)
open Text.Utf8 (encode)

/-! ## Lower case -/

theorem toLower_cases (c : Char) : c.toLower = c ∨ ∃ n < 26, c = Char.ofNat (65 + n) := by
  by_cases h : 'A'.val ≤ c.val ∧ c.val ≤ 'Z'.val
  · have hlow : 65 ≤ c.toNat := h.1
    have hhigh : c.toNat ≤ 90 := h.2
    exact .inr ⟨c.toNat - 65, by omega, by rw [Nat.add_sub_cancel' hlow, Char.ofNat_toNat]⟩
  · exact .inl (dif_neg h)

theorem toLower_capital : ∀ n < 26, (Char.ofNat (65 + n)).toLower = Char.ofNat (97 + n) := by decide

/-- Only a small letter is more than one character in lower case. -/
theorem eq_of_toLower_eq {c d : Char} (hd : ∀ n < 26, Char.ofNat (97 + n) ≠ d) (h : c.toLower = d) :
    c = d := by
  rcases toLower_cases c with hsame | ⟨n, hn, rfl⟩
  · rw [← hsame, h]
  · exact absurd ((toLower_capital n hn).symm.trans h) (hd n hn)

theorem eq_of_toLower_eq_e {c : Char} (h : c.toLower = 'e') : c = 'e' ∨ c = 'E' := by
  rcases toLower_cases c with hsame | ⟨n, hn, rfl⟩
  · exact .inl (hsame.symm.trans h)
  · have hletters : ∀ n < 26, Char.ofNat (97 + n) = 'e' → Char.ofNat (65 + n) = 'E' := by decide
    exact .inr (hletters n hn ((toLower_capital n hn).symm.trans h))

/-! ## Places -/

/-- What a text may be that is this one in lower case, if the only letter in this one is `e`. -/
def spellings : List Char → List (List Char)
  | [] => [[]]
  | d :: ds => (if d = 'e' then ['e', 'E'] else [d]).flatMap fun c => (spellings ds).map (c :: ·)

theorem mem_spellings {cs ds : List Char} (h : cs.map Char.toLower = ds)
    (hds : ds ⊆ ['.', '%', '2', 'e']) : cs ∈ spellings ds := by
  subst h
  induction cs with
  | nil => exact List.mem_singleton.mpr rfl
  | cons c cs ih =>
      obtain ⟨hd, hds⟩ := List.cons_subset.mp hds
      have hc : c ∈ if c.toLower = 'e' then ['e', 'E'] else [c.toLower] := by
        split
        · next he => rcases eq_of_toLower_eq_e he with rfl | rfl <;> decide
        · next he =>
            have hletter : ∀ d ∈ ['.', '%', '2'], ∀ n < 26, Char.ofNat (97 + n) ≠ d := by
              rw [List.forall_mem_cons, List.forall_mem_cons, List.forall_mem_singleton]
              decide
            have hd : c.toLower ∈ ['.', '%', '2'] := by
              rcases List.mem_append.mp (show c.toLower ∈ ['.', '%', '2'] ++ ['e'] from hd) with hd | hd
              · exact hd
              · exact absurd (List.mem_singleton.mp hd) he
            rw [← eq_of_toLower_eq (hletter _ hd) rfl]
            exact List.mem_singleton.mpr rfl
      exact List.mem_flatMap.mpr ⟨c, hc, List.mem_map.mpr ⟨cs, ih hds, rfl⟩⟩

/-- Without its escapes, a segment that means a place is the dots that the place is written as. -/
theorem unescapeBytes_of_spelling {place s : String} {ways : List String} (h : ways.contains s.toLower)
    (hways : ∀ w ∈ ways, w.toList ⊆ ['.', '%', '2', 'e'] ∧
      ∀ cs ∈ spellings w.toList, unescapeBytes (Text.Utf8.encodeChars cs) = encode place) :
    unescapeBytes (encode s) = encode place := by
  obtain ⟨hletters, hspellings⟩ := hways _ (List.contains_iff_mem.mp h)
  exact hspellings _ (mem_spellings String.toList_map.symm hletters)

theorem unescapeBytes_of_isHere {s : String} (h : isHere s) : unescapeBytes (encode s) = encode "." :=
  unescapeBytes_of_spelling h (by decide)

theorem unescapeBytes_of_isAbove {s : String} (h : isAbove s) : unescapeBytes (encode s) = encode ".." :=
  unescapeBytes_of_spelling h (by decide)

/-! ## Names -/

/-- Whether a text is a name wherever it stands in a path. -/
structure IsName (s : String) : Prop where
  plain : ∀ c ∈ s.toList, c ∉ ['\t', '\n', '\r', '/', '?', '#', '%']
  not_here : s ≠ "."
  not_above : s ≠ ".."

theorem encode_injective : Function.Injective encode := fun s t h => by
  rw [← Text.Utf8.decodeLossy_encode s, h, Text.Utf8.decodeLossy_encode]

namespace IsName

variable {s : String} (h : IsName s)
include h

theorem percent_not_mem : '%' ∉ s.toList := fun hmem => h.plain '%' hmem (by decide)

theorem slash_not_mem : '/' ∉ s.toList := fun hmem => h.plain '/' hmem (by decide)

theorem unescapeBytes_escape : unescapeBytes (encode (escape isEscapedInPath s)) = encode s := by
  rw [encode_escape escapes_inPath, escapes_inPath.unescapeBytes_flatMap, unescapeBytes_encode h.percent_not_mem]

theorem isHere_escape : isHere (escape isEscapedInPath s) = false := by
  refine Bool.eq_false_iff.mpr fun hhere => h.not_here (encode_injective ?_)
  rw [← h.unescapeBytes_escape, unescapeBytes_of_isHere hhere]

theorem isAbove_escape : isAbove (escape isEscapedInPath s) = false := by
  refine Bool.eq_false_iff.mpr fun habove => h.not_above (encode_injective ?_)
  rw [← h.unescapeBytes_escape, unescapeBytes_of_isAbove habove]

end IsName

/-- The segments of a path as a server finds them. -/
def segments (path : String) : List String :=
  ((pieces (· == '/') path.toList).drop 1).map fun p => unescape (String.ofList p)

/-! ## Paths of names -/

/-- The path that is made of some segments. -/
def pathOf (names : List String) : String := "/" ++ "/".intercalate names

theorem slash_not_mem_escape {s : String} (h : '/' ∉ s.toList) :
    '/' ∉ (escape isEscapedInPath s).toList := by
  intro hmem
  have hbyte := (mem_encode_iff (by decide)).mpr hmem
  rw [encode_escape escapes_inPath] at hbyte
  obtain ⟨b, hb, hwritten⟩ := List.mem_flatMap.mp hbyte
  have hdigit : ∀ n < 16, UInt8.ofNat '/'.toNat ≠ UInt8.ofNat (hexDigit n).toNat := by decide
  have hlt := b.toNat_lt
  cases hescaped : isEscapedInPath b with
  | true =>
      rw [Escapes.writtenByte_of_escaped hescaped] at hwritten
      rcases List.mem_cons.mp hwritten with hsign | hwritten
      · cases hsign
      · rcases List.mem_cons.mp hwritten with hhigh | hwritten
        · exact hdigit _ (by omega) hhigh
        · exact hdigit _ (by omega) (List.mem_singleton.mp hwritten)
  | false =>
      rw [escapes_inPath.writtenByte_of_not hescaped] at hwritten
      rw [← List.mem_singleton.mp hwritten] at hb
      exact h ((mem_encode_iff (by decide)).mp hb)

theorem toList_pathOf_cons (name : String) {names : List String} (h : names ≠ []) :
    (pathOf (name :: names)).toList = '/' :: (name.toList ++ (pathOf names).toList) := by
  simp only [pathOf, String.toList_append, String.toList_intercalate, List.map_cons]
  rw [List.intercalate_cons_of_ne_nil (by simpa using h)]
  simp

/-- A path is cut into the segments that it is made of. -/
theorem pieces_pathOf {names : List String} (hne : names ≠ []) (h : ∀ n ∈ names, '/' ∉ n.toList) :
    pieces (· == '/') (pathOf names).toList = [] :: names.map String.toList := by
  have hpiece (n : String) (hn : '/' ∉ n.toList) : pieces (· == '/') n.toList = [n.toList] :=
    Text.pieces_of_not fun c hc => beq_eq_false_iff_ne.mpr fun heq => hn (heq ▸ hc)
  have hcut (cs : List Char) : pieces (· == '/') ('/' :: cs) = [] :: pieces (· == '/') cs :=
    Text.pieces_append_cons (by decide) [] cs
  induction names with
  | nil => exact absurd rfl hne
  | cons name names ih =>
      obtain ⟨hname, hnames⟩ := List.forall_mem_cons.mp h
      cases names with
      | nil =>
          have hsingle : (pathOf [name]).toList = '/' :: name.toList := by simp [pathOf]
          rw [hsingle, hcut, hpiece name hname]
          rfl
      | cons next names =>
          have hnext : (pathOf (next :: names)).toList = '/' :: (pathOf (next :: names)).toList.tail := by
            simp [pathOf]
          have ih := ih (List.cons_ne_nil next names) hnames
          rw [hnext, hcut] at ih
          rw [toList_pathOf_cons name (List.cons_ne_nil next names), hcut, hnext,
            Text.pieces_append_cons (by decide), hpiece name hname, (List.cons.inj ih).2]
          rfl

theorem segments_pathOf {names : List String} (hne : names ≠ []) (h : ∀ n ∈ names, '/' ∉ n.toList) :
    segments (pathOf names) = names.map unescape := by
  rw [segments, pieces_pathOf hne h, List.drop_one, List.tail_cons, List.map_map]
  exact List.map_congr_left fun n _ => by rw [Function.comp_apply, String.ofList_toList]

/-- Segments that mean no place lead where they say. -/
theorem resolve_eq_self {names : List String} (hne : names ≠ [])
    (h : ∀ n ∈ names, isHere n = false ∧ isAbove n = false) : resolve names = names := by
  have hfollow (place ns : List String) (hns : ∀ n ∈ ns, isHere n = false ∧ isAbove n = false) :
      ns.foldl follow place = ns.reverse ++ place := by
    induction ns generalizing place with
    | nil => rfl
    | cons n ns ih =>
        obtain ⟨⟨hhere, habove⟩, hns⟩ := List.forall_mem_cons.mp hns
        have hstep : follow place n = n :: place := by
          simp only [follow, hhere, habove, Bool.false_eq_true, if_false]
        rw [List.foldl_cons, hstep, ih _ hns, List.reverse_cons, List.append_assoc]
        rfl
  obtain ⟨hhere, habove⟩ := h _ (List.getLast_mem hne)
  rw [resolve, hfollow [] _ fun n hn => h n (List.dropLast_subset _ hn), List.getLast?_eq_some_getLast hne]
  simp only [Option.getD_some, hhere, habove, Bool.or_self, Bool.false_eq_true, if_false, List.append_nil,
    List.reverse_cons, List.reverse_reverse]
  exact List.dropLast_concat_getLast hne

theorem mem_pathOf {names : List String} {c : Char} (h : c ∈ (pathOf names).toList) :
    c = '/' ∨ ∃ n ∈ names, c ∈ n.toList := by
  have hcs : c = '/' ∨ c ∈ ['/'].intercalate (names.map String.toList) := by simpa [pathOf] using h
  refine hcs.elim .inl fun hmem => ?_
  clear h hcs
  induction names with
  | nil => cases hmem
  | cons name names ih =>
      cases names with
      | nil => exact .inr ⟨name, List.mem_singleton.mpr rfl, by simpa using hmem⟩
      | cons next names =>
          rw [List.map_cons, List.intercalate_cons_of_ne_nil (by simp), List.append_assoc] at hmem
          rcases List.mem_append.mp hmem with hname | hrest
          · exact .inr ⟨name, List.mem_cons_self, hname⟩
          · rcases List.mem_cons.mp hrest with hslash | hrest
            · exact .inl hslash
            · refine (ih hrest).imp_right fun ⟨n, hn, hc⟩ => ⟨n, List.mem_cons_of_mem _ hn, hc⟩

/-- A path of names is sent as these names, escaped. -/
theorem ofText_pathOf {names : List String} (hne : names ≠ []) (h : ∀ n ∈ names, IsName n) :
    Reference.ofText (pathOf names) = ⟨pathOf (names.map (escape isEscapedInPath)), none⟩ := by
  have hplain : ∀ c ∈ (pathOf names).toList, c ∉ ['\t', '\n', '\r'] ∧ c ∉ ['?', '#'] := by
    intro c hc
    rcases mem_pathOf hc with rfl | ⟨n, hn, hc⟩
    · decide
    · have hname := (h n hn).plain c hc
      exact ⟨fun hmem => hname (List.mem_append_left _ hmem),
        fun hmem => hname (List.mem_append_right ['\t', '\n', '\r', '/'] (List.mem_append_left ['%'] hmem))⟩
  have hfilter : (pathOf names).toList.filter (fun c => c ≠ '\t' && c ≠ '\n' && c ≠ '\r') =
      (pathOf names).toList :=
    List.filter_eq_self.mpr fun c hc => by simpa [and_assoc] using (hplain c hc).1
  have hspan : (pathOf names).toList.span (fun c => c ≠ '?' && c ≠ '#') = ((pathOf names).toList, []) := by
    have hnot : ∀ c ∈ (pathOf names).toList, (c ≠ '?' && c ≠ '#') = true := fun c hc => by
      simpa using (hplain c hc).2
    rw [List.span_eq_takeWhile_dropWhile, List.takeWhile_eq_self_iff.mpr hnot,
      List.dropWhile_eq_nil_iff.mpr hnot]
  have hsegments : ((pieces (· == '/') (pathOf names).toList).drop 1).map
      (fun p => escape isEscapedInPath (String.ofList p)) = names.map (escape isEscapedInPath) := by
    rw [pieces_pathOf hne fun n hn => (h n hn).slash_not_mem, List.drop_one, List.tail_cons, List.map_map]
    exact List.map_congr_left fun n _ => by rw [Function.comp_apply, String.ofList_toList]
  have hresolve : resolve (names.map (escape isEscapedInPath)) = names.map (escape isEscapedInPath) :=
    resolve_eq_self (by simpa using hne) fun _ hmem => by
      obtain ⟨n, hn, rfl⟩ := List.mem_map.mp hmem
      exact ⟨(h n hn).isHere_escape, (h n hn).isAbove_escape⟩
  rw [Reference.ofText, hfilter, hspan]
  simp only [hsegments, hresolve]
  rfl

/-- And a server finds them again. -/
theorem segments_path_ofText {names : List String} (hne : names ≠ []) (h : ∀ n ∈ names, IsName n) :
    segments (Reference.ofText (pathOf names)).path = names := by
  rw [ofText_pathOf hne h, segments_pathOf (by simpa using hne), List.map_map]
  · refine (List.map_congr_left fun n hn => ?_).trans (List.map_id names)
    rw [Function.comp_apply, unescape_escape escapes_inPath, unescape_eq_self (h n hn).percent_not_mem, id]
  · intro _ hmem
    obtain ⟨n, hn, rfl⟩ := List.mem_map.mp hmem
    exact slash_not_mem_escape (h n hn).slash_not_mem

end TrafficShaping.Url
