import TrafficShaping.Shaping.Cache
import TrafficShaping.Proofs.Words

/-!
# Parameters and their texts

Many texts mean the same parameter, and one of them is the parameter's own: the trimmed value, or the hyphen
if it is unset. A parameter is normal if it is what its own text means. Whatever is read from a text is
normal, because trimming twice is trimming once, and a normal parameter that is set has a value with words in
it, of which the hyphen is not the only one.

Reading undoes showing on normal parameters, so two of them that show alike are the same, and none that is set
shows as the hyphen. A cache is normal if everything in it is, and it stays so if what is applied is normal.
-/

namespace TrafficShaping

namespace Param

theorem ofText_eq_unset_iff {s : String} :
    ofText s = .unset ↔ Text.trim s = "" ∨ Text.trim s = unsetText := by
  rw [ofText]
  constructor
  · intro h
    split at h
    · next hunset => exact hunset
    · cases h
  · intro h
    exact if_pos h

theorem ofText_eq_set {s : String} (hblank : Text.trim s ≠ "") (hset : Text.trim s ≠ unsetText) :
    ofText s = .set (Text.trim s) :=
  if_neg (not_or.mpr ⟨hblank, hset⟩)

theorem ofText_eq_set_iff {s v : String} : ofText s = .set v ↔ Text.trim s = v ∧ v ≠ "" ∧ v ≠ unsetText := by
  constructor
  · intro h
    have hset : ofText s ≠ .unset := by
      rw [h]
      exact Param.noConfusion
    rw [ne_eq, ofText_eq_unset_iff, not_or] at hset
    rw [ofText_eq_set hset.1 hset.2] at h
    obtain rfl : Text.trim s = v := set.inj h
    exact ⟨rfl, hset⟩
  · rintro ⟨rfl, hblank, hset⟩
    exact ofText_eq_set hblank hset

/-- A text that trimming does not shorten can be kept as it is. -/
theorem ofText_eq_of_size (s : String) : ofText s =
    if Text.trim s = "" ∨ Text.trim s = unsetText then .unset
    else if (Text.trim s).utf8ByteSize = s.utf8ByteSize then .set s else .set (Text.trim s) := by
  rw [ofText]
  split
  · rfl
  · split
    · next hsize => rw [Text.utf8ByteSize_trim_eq_iff.mp hsize]
    · rfl

theorem ofText_trim (s : String) : ofText (Text.trim s) = ofText s := by
  rw [ofText, ofText, Text.trim_trim]

/-- Whether a parameter is what its text means. -/
def IsNormal (p : Param) : Prop := ofText p.text = p

theorem isNormal_unset : unset.IsNormal := ofText_eq_unset_iff.mpr (.inr (by decide))

theorem isNormal_ofText (s : String) : (ofText s).IsNormal := by
  by_cases hunset : Text.trim s = "" ∨ Text.trim s = unsetText
  · rw [ofText_eq_unset_iff.mpr hunset]
    exact isNormal_unset
  · have hset : ofText s = set (Text.trim s) := if_neg hunset
    rw [hset, IsNormal, text, ofText_trim, hset]

theorem isNormal_set_iff {value : String} :
    (set value).IsNormal ↔ Text.trim value = value ∧ value ≠ "" ∧ value ≠ unsetText := by
  rw [IsNormal, text, ofText_eq_set_iff]

/-- The normal parameters, without reading. -/
theorem isNormal_iff {p : Param} : p.IsNormal ↔
    p = .unset ∨ ∃ v, p = .set v ∧ Text.Trimmed v.toList ∧ v ≠ "" ∧ v ≠ unsetText := by
  cases p with
  | unset => exact iff_of_true isNormal_unset (.inl rfl)
  | set value =>
      rw [isNormal_set_iff, Text.trim_eq_self_iff, or_iff_right Param.noConfusion]
      constructor
      · intro h
        exact ⟨value, rfl, h⟩
      · rintro ⟨_, ⟨⟩, h⟩
        exact h

theorem IsNormal.eq_iff_text_eq {p q : Param} (hp : p.IsNormal) (hq : q.IsNormal) :
    p = q ↔ p.text = q.text := by
  constructor
  · intro h
    rw [h]
  · intro h
    rw [← hp, h, hq]

theorem IsNormal.text_eq_unsetText_iff {p : Param} (h : p.IsNormal) : p.text = unsetText ↔ p = .unset :=
  (h.eq_iff_text_eq isNormal_unset).symm

/-! ## Words -/

theorem words_eq_unsetText_iff {s : String} :
    Text.words s = [unsetText] ↔ Text.trim s = unsetText := by
  constructor
  · exact Text.trim_eq_of_words_eq_singleton
  · intro h
    rw [← Text.words_trim, h]
    decide

theorem IsNormal.words_ne_nil {value : String} (h : (set value).IsNormal) : Text.words value ≠ [] := by
  obtain ⟨htrim, hblank, -⟩ := isNormal_set_iff.mp h
  rw [ne_eq, Text.words_eq_nil_iff, htrim]
  exact hblank

theorem IsNormal.words_ne_unsetText {value : String} (h : (set value).IsNormal) :
    Text.words value ≠ [unsetText] := by
  obtain ⟨htrim, -, hset⟩ := isNormal_set_iff.mp h
  rw [ne_eq, words_eq_unsetText_iff, htrim]
  exact hset

end Param

/-! ## Caches -/

theorem Mutation.isNormal_ofText (d : Dimension) (value : String) :
    (Mutation.ofText d value).value.IsNormal := by
  simp only [Mutation.ofText]
  exact Param.isNormal_ofText value

namespace Cache

/-- Whether every parameter that a cache holds is normal. -/
def IsNormal (c : Cache) : Prop := ∀ n d, ((c.read n).get d).IsNormal

theorem isNormal_empty : IsNormal {} := by
  intro n d
  cases d <;> exact Param.isNormal_unset

variable {c : Cache}

theorem IsNormal.entry (h : c.IsNormal) {n : Identity} {shape : Shape} (hshape : c.get? n = some shape)
    (d : Dimension) : (shape.get d).IsNormal := by
  have hread : c.read n = shape := by
    rw [read, hshape]
    rfl
  rw [← hread]
  exact h n d

theorem IsNormal.apply (h : c.IsNormal) (n : Identity) (m : Mutation) (hm : m.value.IsNormal) :
    (c.apply n m).IsNormal := by
  intro other d
  rw [read, get?_apply]
  split
  · show (((c.read n).set m.dimension m.value).get d).IsNormal
    rw [Shape.get_set]
    split
    · exact hm
    · exact h n d
  · exact h other d

theorem IsNormal.clear (h : c.IsNormal) (n : Identity) : (c.clear n).IsNormal := by
  intro other d
  rw [read, get?_clear]
  split
  · exact isNormal_empty n d
  · exact h other d

end Cache

end TrafficShaping
