import Switchboard.Table

/-!
# Tables listed in order

Code point order is a linear order on texts, so that the listing of a table is strictly
increasing and depends on nothing but which keys have a value: no listing and no count tells
tables with the same keys apart, in whatever order the keys were assigned.
-/

namespace Switchboard

/-! ## Code point order -/

/-- No character has the number of a surrogate. -/
theorem CodePoint.toNat_ne_surrogate (value : Char) (offset : Fin 2048) :
    value.toNat ≠ 0xD800 + offset.val := by
  have valid : value.toNat.isValidChar := value.valid
  have bound := offset.isLt
  simp only [Nat.isValidChar] at valid
  omega

/-- A code point is determined by its number. -/
theorem CodePoint.code_injective {first second : CodePoint} (same : first.code = second.code) :
    first = second := by
  cases first with
  | scalar value =>
    cases second with
    | scalar other => exact congrArg _ (Char.toNat_inj.mp same)
    | surrogate offset => exact absurd same (toNat_ne_surrogate value offset)
  | surrogate offset =>
    cases second with
    | scalar value => exact absurd same.symm (toNat_ne_surrogate value offset)
    | surrogate other => exact congrArg _ (Fin.ext (Nat.add_left_cancel same))

namespace Text

theorem le_trans (first second third : Text) (low : le first second = true)
    (high : le second third = true) : le first third = true := by
  induction first generalizing second third with
  | nil => rfl
  | cons a first inductionHypothesis =>
    cases second with
    | nil => cases low
    | cons b second =>
      cases third with
      | nil => cases high
      | cons c third =>
        simp only [le, Bool.or_eq_true, decide_eq_true_eq, Bool.and_eq_true, beq_iff_eq]
          at low high ⊢
        rcases low with low | ⟨same, low⟩ <;> rcases high with high | ⟨same', high⟩
        · exact .inl (by omega)
        · exact .inl (by omega)
        · exact .inl (by omega)
        · exact .inr ⟨by omega, inductionHypothesis second third low high⟩

theorem le_total (first second : Text) : (le first second || le second first) = true := by
  induction first generalizing second with
  | nil => rfl
  | cons a first inductionHypothesis =>
    cases second with
    | nil => rfl
    | cons b second =>
      have rest := inductionHypothesis second
      simp only [le, Bool.or_eq_true, decide_eq_true_eq, Bool.and_eq_true, beq_iff_eq] at rest ⊢
      rcases Nat.lt_trichotomy a.code b.code with less | same | more
      · exact .inl (.inl less)
      · rcases rest with low | high
        · exact .inl (.inr ⟨same, low⟩)
        · exact .inr (.inr ⟨same.symm, high⟩)
      · exact .inr (.inl more)

theorem le_antisymm (first second : Text) (low : le first second = true)
    (high : le second first = true) : first = second := by
  induction first generalizing second with
  | nil =>
    cases second with
    | nil => rfl
    | cons => cases high
  | cons a first inductionHypothesis =>
    cases second with
    | nil => cases low
    | cons b second =>
      simp only [le, Bool.or_eq_true, decide_eq_true_eq, Bool.and_eq_true, beq_iff_eq] at low high
      rcases low with low | ⟨same, low⟩ <;> rcases high with high | ⟨same', high⟩
      · omega
      · omega
      · omega
      · rw [CodePoint.code_injective same, inductionHypothesis second low high]

/-- Strictly before another text in code point order. -/
def Precedes (first second : Text) : Prop := le first second = true ∧ first ≠ second

theorem pairwise_sort (texts : List Text) :
    (sort texts).Pairwise fun first second => le first second = true :=
  List.pairwise_mergeSort le_trans le_total texts

theorem sort_perm (texts : List Text) : (sort texts).Perm texts := List.mergeSort_perm texts le

/-- Distinct texts are sorted into a strictly increasing list. -/
theorem pairwise_precedes_sort {texts : List Text} (distinct : texts.Nodup) :
    (sort texts).Pairwise Precedes :=
  (pairwise_sort texts).and ((sort_perm texts).nodup_iff.mpr distinct)

/-- The order in which texts are given does not matter. -/
theorem sort_eq_of_perm {texts others : List Text} (permuted : texts.Perm others) :
    sort texts = sort others := by
  refine List.Perm.eq_of_pairwise (fun first second _ _ => le_antisymm first second)
    (pairwise_sort texts) (pairwise_sort others) ?_
  exact (sort_perm texts).trans (permuted.trans (sort_perm others).symm)

end Text

/-! ## Listings -/

namespace Table

variable {α : Type}

theorem mem_sortedKeys (table : Table α) (key : Text) :
    key ∈ table.sortedKeys ↔ (table.get? key).isSome = true := by
  rw [sortedKeys, (Text.sort_perm table.keys).mem_iff, ← contains_iff_mem_keys, contains]

theorem pairwise_sortedKeys (table : Table α) : table.sortedKeys.Pairwise Text.Precedes :=
  Text.pairwise_precedes_sort table.distinct

theorem length_sortedKeys (table : Table α) : table.sortedKeys.length = table.size := by
  rw [sortedKeys, (Text.sort_perm table.keys).length_eq, keys, Pairs.keys, List.length_map, size]

/-- Two tables, of whatever values, with the same keys. -/
def SameKeys {β : Type} (first : Table α) (second : Table β) : Prop :=
  ∀ key, first.contains key = second.contains key

theorem SameKeys.sortedKeys_eq {β : Type} {first : Table α} {second : Table β}
    (same : first.SameKeys second) : first.sortedKeys = second.sortedKeys := by
  refine Text.sort_eq_of_perm ((List.perm_ext_iff_of_nodup first.distinct second.distinct).mpr ?_)
  intro key
  have here := contains_iff_mem_keys first key
  have there := contains_iff_mem_keys second key
  rw [same] at here
  exact here.symm.trans there

theorem SameKeys.size_eq {β : Type} {first : Table α} {second : Table β}
    (same : first.SameKeys second) : first.size = second.size := by
  rw [← length_sortedKeys, ← length_sortedKeys, same.sortedKeys_eq]

end Table

end Switchboard
