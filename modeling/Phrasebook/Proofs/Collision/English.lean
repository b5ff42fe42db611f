import Mathlib.Data.Finset.Card
import Phrasebook.Proofs.Collision.Report
import Phrasebook.Proofs.Dictionary.Spelling

/-! # English names after deduplication

Deduplication compares English names without the white space around them, an index compares them
with it. The first comparison is the coarser one: lower case and the cutting of white space can
change places, so names with one key have one bare name. Of the entries that claim a key in a
dictionary without repetitions, one at most claims it with its English name; the collisions that are
left come from other languages.
-/

namespace Phrasebook

/-- Entries whose English names have one key count as the same for deduplication. -/
theorem Entry.englishKey_eq_of_key_eq {one other : Entry} (same : key one.en = key other.en) :
    one.englishKey = other.englishKey := by
  rw [englishKey, englishKey, ← Text.trimWhite_lowercase, ← Text.trimWhite_lowercase]
  exact congrArg Text.trimWhite same

namespace Collision

variable {entries : List Entry} {collision : Collision}

/-- The entries that claim the key of a collision. -/
def claimants (collision : Collision) : List Entry :=
  collision.winner :: collision.shadowed

theorem mem_of_mem_claimants (reported : collision ∈ ofEntries entries) {entry : Entry}
    (claims : entry ∈ collision.claimants) : entry ∈ entries := by
  rcases List.mem_cons.mp claims with rfl | shadowed
  · obtain ⟨-, won, -⟩ := among?_eq_some_iff.mp (mem_ofEntries_iff.mp reported)
    exact (List.mem_filter.mp (List.mem_of_getLast? won)).1
  · exact ((mem_shadowed_iff reported).mp shadowed).1

theorem nodup_claimants (reported : collision ∈ ofEntries entries) :
    collision.claimants.Nodup := by
  refine List.nodup_cons.mpr ⟨fun shadowed => ?_, ?_⟩
  · exact ((mem_shadowed_iff reported).mp shadowed).2.1 rfl
  · refine (pairwise_shadowed reported).imp ?_
    rintro one other before rfl
    exact Nat.lt_irrefl _ before

/-- Where one entry at most can satisfy a condition, one claimant at most does. -/
theorem countP_claimants_le_one (reported : collision ∈ ofEntries entries) {claims : Entry → Bool}
    (alike : ∀ one ∈ entries, ∀ other ∈ entries, claims one → claims other → one = other) :
    collision.claimants.countP claims ≤ 1 := by
  have distinct := (nodup_claimants reported).filter claims
  rw [List.countP_eq_length_filter, ← List.toFinset_card_of_nodup distinct, Finset.card_le_one]
  intro one member other memberToo
  obtain ⟨listed, holds⟩ := List.mem_filter.mp (List.mem_toFinset.mp member)
  obtain ⟨listedToo, holdsToo⟩ := List.mem_filter.mp (List.mem_toFinset.mp memberToo)
  exact alike one (mem_of_mem_claimants reported listed) other
    (mem_of_mem_claimants reported listedToo) holds holdsToo

end Collision

/-- After deduplication at most one of the entries that claim the key of a collision claims it with
    its English name. No two places have English names of one key. -/
theorem english_uncontested_dedupe (entries : List Entry) :
    (∀ collision ∈ Collision.ofEntries (dedupe entries),
      (collision.claimants.countP fun entry => key entry.en = collision.key) ≤ 1) ∧
    (dedupe entries).Pairwise fun one other => key one.en ≠ key other.en := by
  constructor
  · intro collision reported
    apply Collision.countP_claimants_le_one reported
    intro one kept other keptToo called calledToo
    have same := (of_decide_eq_true called).trans (of_decide_eq_true calledToo).symm
    exact eq_of_mem_dedupe kept keptToo (Entry.englishKey_eq_of_key_eq same)
  · apply (isDeduped_dedupeFrom [] entries).distinct.imp
    intro one other apart same
    exact apart (Entry.englishKey_eq_of_key_eq same)

/-- Of four entries, two of one English name, three are left, and one of the two that claim a key
    claims it with its English name. -/
theorem english_uncontested_dedupe_wunder :
    let kept := dedupe [⟨"Miracle", "WUNDER", ""⟩, ⟨"Wunder", "Mirakel", ""⟩,
      ⟨"WUNDER ", "Wunder", ""⟩, ⟨"Aero", "", "Vent"⟩]
    let collision : Collision :=
      ⟨"wunder", ⟨"Wunder", "Mirakel", ""⟩, [⟨"Miracle", "WUNDER", ""⟩]⟩
    collision ∈ Collision.ofEntries kept ∧
      (collision.claimants.countP fun entry => key entry.en = collision.key) ≤ 1 := by
  intro kept collision
  have reported : collision ∈ Collision.ofEntries kept := by decide
  exact ⟨reported, (english_uncontested_dedupe _).1 collision reported⟩

end Phrasebook
