import Phrasebook.Deduplication

/-! # What is left of a dictionary

What deduplication leaves has an English name in every entry, and no two entries of one name.
Where that is so already, nothing is dropped.
-/

namespace Phrasebook

/-- Every entry has an English name, that was not seen before and that no other entry has. -/
structure IsDeduped (seen : List String) (entries : List Entry) : Prop where
  fresh : ∀ entry ∈ entries, entry.englishKey ≠ "" ∧ entry.englishKey ∉ seen
  distinct : entries.Pairwise fun one other => one.englishKey ≠ other.englishKey

theorem isDeduped_dedupeFrom (seen : List String) (entries : List Entry) :
    IsDeduped seen (dedupeFrom seen entries) := by
  -- An entry that is kept counts as seen for those behind it.
  induction entries generalizing seen with
  | nil => exact ⟨List.forall_mem_nil _, .nil⟩
  | cons entry rest ih =>
      simp only [dedupeFrom]
      split
      · exact ih seen
      · next kept =>
        obtain ⟨fresh, distinct⟩ := ih (entry.englishKey :: seen)
        simp only [List.mem_cons, not_or] at fresh kept
        exact ⟨List.forall_mem_cons.mpr
            ⟨kept, fun other member => ⟨(fresh other member).1, (fresh other member).2.2⟩⟩,
          List.pairwise_cons.mpr ⟨fun other member => Ne.symm (fresh other member).2.1, distinct⟩⟩

theorem IsDeduped.dedupeFrom_eq {seen : List String} {entries : List Entry}
    (deduped : IsDeduped seen entries) : dedupeFrom seen entries = entries := by
  induction entries generalizing seen with
  | nil => rfl
  | cons entry rest ih =>
      obtain ⟨fresh, distinct⟩ := deduped
      obtain ⟨kept, others⟩ := List.forall_mem_cons.mp fresh
      obtain ⟨apart, distinct⟩ := List.pairwise_cons.mp distinct
      have later : IsDeduped (entry.englishKey :: seen) rest := by
        refine ⟨fun other member => ⟨(others other member).1, ?_⟩, distinct⟩
        rw [List.mem_cons, not_or]
        exact ⟨(apart other member).symm, (others other member).2⟩
      simp only [dedupeFrom]
      rw [if_neg (not_or.mpr kept), ih later]

theorem dedupe_dedupe (entries : List Entry) : dedupe (dedupe entries) = dedupe entries :=
  (isDeduped_dedupeFrom [] entries).dedupeFrom_eq

end Phrasebook
