import Phrasebook.Proofs.Collision.Slots

/-! # Dictionaries without collisions

A key is contested when the entries that write it are not all the same. Where the report of a
dictionary has nothing to tell, every name of an entry leads to that entry, in whatever order the
names were written.
-/

namespace Phrasebook

namespace Collision

theorem mem_keysInOrder {entries : List Entry} {written : String} :
    written ∈ keysInOrder entries ↔ ∃ entry ∈ entries, written ∈ entry.keys := by
  simp [keysInOrder]

theorem among?_eq_none_iff {key : String} {writers : List Entry} :
    among? key writers = none ↔ ∀ one ∈ writers, ∀ other ∈ writers, one = other := by
  unfold among?
  split
  · next empty =>
    rw [List.getLast?_eq_none_iff.mp empty]
    simp
  · next winner last =>
    have won := List.mem_of_getLast? last
    split
    · next unshadowed =>
      have settled : ∀ entry ∈ writers, entry = winner := by
        simpa [List.eq_nil_iff_forall_not_mem] using unshadowed
      exact iff_of_true rfl fun one member other member' =>
        (settled one member).trans (settled other member').symm
    · next shadowed =>
      refine iff_of_false (by simp) fun alike => shadowed ?_
      have settled : ∀ entry ∈ writers, entry = winner := fun entry member =>
        alike entry member winner won
      simpa [List.eq_nil_iff_forall_not_mem] using settled

/-- Nothing is reported exactly when no key is written by two entries that differ. -/
theorem ofEntries_eq_nil_iff {entries : List Entry} :
    ofEntries entries = [] ↔ ∀ key one other,
      (key, one) ∈ writes entries → (key, other) ∈ writes entries → one = other := by
  simp only [ofEntries_eq, List.filterMap_eq_nil_iff, mem_keysInOrder, among?_eq_none_iff,
    List.mem_filter, decide_eq_true_eq, mem_writes]
  constructor
  · intro alike key one other wrote wroteToo
    exact alike key ⟨one, wrote⟩ one wrote other wroteToo
  · intro alike key _ one wrote other wroteToo
    exact alike key one other wrote wroteToo

end Collision

/-- Without collisions, what an entry writes leads back to it. -/
theorem Index.lookup_of_mem_writes {entries : List Entry} {name : String} {entry : Entry}
    (uncontested : Collision.ofEntries entries = []) (wrote : (key name, entry) ∈ writes entries) :
    (build entries).lookup name = some entry := by
  cases found : (build entries).lookup name with
  | none =>
      rw [lookup_build, List.getLast?_eq_none_iff] at found
      have listed := mem_writersOf.mpr wrote
      rw [found] at listed
      cases listed
  | some other =>
      rw [Collision.ofEntries_eq_nil_iff.mp uncontested (key name) other entry
        (written_of_lookup found) wrote]

end Phrasebook
