import Phrasebook.Proofs.Index.Collisions
import Phrasebook.Proofs.Index.LastWrite
import Phrasebook.Proofs.Text.Lowercase

/-! # The report of collisions

The report and the index are filled apart from each other, and agree: a collision names the entry
that a look-up of its key finds, and beside it every entry that cannot be found there. A reported key
can be looked up as it stands because lower case leaves it alone.
-/

namespace Phrasebook

/-- One of the entry's names is written under the key; an empty name is not. -/
def Entry.Writes (entry : Entry) (key : String) : Prop :=
  ∃ language, entry.name language ≠ "" ∧ Text.lowercase (entry.name language) = key

theorem Entry.mem_keys_iff_writes {entry : Entry} {key : String} :
    key ∈ entry.keys ↔ entry.Writes key :=
  Entry.mem_keys

theorem Entry.Writes.key_eq {entry : Entry} {written : String} (wrote : entry.Writes written) :
    key written = written := by
  obtain ⟨language, -, rfl⟩ := wrote
  exact Text.lowercase_lowercase _

theorem Index.lookup_build_eq_getLast? (entries : List Entry) (name : String) :
    (build entries).lookup name =
      (entries.filter fun entry => key name ∈ entry.keys).getLast? := by
  rw [lookup_build_eq_find?, ← List.head?_filter, List.filter_reverse, List.head?_reverse]

namespace Collision

variable {entries : List Entry} {collision : Collision}

theorem among?_eq_some_iff {key : String} {writers : List Entry} :
    among? key writers = some collision ↔
      collision.key = key ∧ writers.getLast? = some collision.winner ∧
        collision.shadowed = (writers.filter (· != collision.winner)).eraseDups ∧
        collision.shadowed ≠ [] := by
  obtain ⟨reported, winner, shadowed⟩ := collision
  unfold among?
  split
  · next empty => simp [empty]
  · next last won =>
    rw [won]
    split
    · next unshadowed =>
      constructor
      · intro told
        cases told
      · rintro ⟨-, same, others, filled⟩
        cases same
        exact absurd (others.trans unshadowed) filled
    · next filled =>
      constructor
      · intro told
        cases told
        exact ⟨rfl, rfl, rfl, filled⟩
      · rintro ⟨rfl, same, others, -⟩
        cases same
        dsimp only at others
        rw [others]

theorem mem_ofEntries_iff :
    collision ∈ ofEntries entries ↔
      among? collision.key (entries.filter fun entry => collision.key ∈ entry.keys) =
        some collision := by
  rw [ofEntries_eq, List.mem_filterMap]
  constructor
  · rintro ⟨key, -, told⟩
    rwa [(among?_eq_some_iff.mp told).1]
  · intro told
    have won := List.mem_of_getLast? (among?_eq_some_iff.mp told).2.1
    obtain ⟨member, wrote⟩ := List.mem_filter.mp won
    exact ⟨collision.key, mem_keysInOrder.mpr ⟨_, member, of_decide_eq_true wrote⟩, told⟩

theorem exists_ofEntries_iff {key : String} :
    (∃ collision ∈ ofEntries entries, collision.key = key) ↔
      ∃ one ∈ entries, ∃ other ∈ entries, one ≠ other ∧ one.Writes key ∧ other.Writes key := by
  have contested : (∃ collision ∈ ofEntries entries, collision.key = key) ↔
      among? key (entries.filter fun entry => key ∈ entry.keys) ≠ none := by
    rw [Option.ne_none_iff_exists']
    constructor
    · rintro ⟨collision, member, rfl⟩
      exact ⟨collision, mem_ofEntries_iff.mp member⟩
    · rintro ⟨collision, told⟩
      have same := (among?_eq_some_iff.mp told).1
      subst same
      exact ⟨collision, mem_ofEntries_iff.mpr told, rfl⟩
  rw [contested, ne_eq, among?_eq_none_iff]
  simp only [List.mem_filter, decide_eq_true_eq, Entry.mem_keys_iff_writes]
  constructor
  · intro differ
    by_contra alike
    refine differ fun one wrote other wroteToo => ?_
    by_contra apart
    exact alike ⟨one, wrote.1, other, wroteToo.1, apart, wrote.2, wroteToo.2⟩
  · rintro ⟨one, member, other, memberToo, apart, wrote, wroteToo⟩ alike
    exact apart (alike one ⟨member, wrote⟩ other ⟨memberToo, wroteToo⟩)

theorem pairwise_key_ofEntries (entries : List Entry) :
    ((ofEntries entries).map Collision.key).Pairwise fun one other =>
      (entries.flatMap Entry.keys).idxOf one < (entries.flatMap Entry.keys).idxOf other := by
  rw [ofEntries_eq, List.pairwise_map]
  apply (pairwise_keysInOrder entries).filterMap
  intro key keyToo before one told other toldToo
  rwa [(among?_eq_some_iff.mp told).1, (among?_eq_some_iff.mp toldToo).1]

theorem mem_shadowed_iff (reported : collision ∈ ofEntries entries) {entry : Entry} :
    entry ∈ collision.shadowed ↔
      entry ∈ entries ∧ entry ≠ collision.winner ∧ entry.Writes collision.key := by
  obtain ⟨-, -, shadowed, -⟩ := among?_eq_some_iff.mp (mem_ofEntries_iff.mp reported)
  rw [shadowed, List.mem_eraseDups, List.filter_filter, List.mem_filter]
  simp only [Bool.and_eq_true, bne_iff_ne, decide_eq_true_eq, Entry.mem_keys_iff_writes]

theorem pairwise_shadowed (reported : collision ∈ ofEntries entries) :
    collision.shadowed.Pairwise fun one other => entries.idxOf one < entries.idxOf other := by
  obtain ⟨-, -, shadowed, -⟩ := among?_eq_some_iff.mp (mem_ofEntries_iff.mp reported)
  rw [shadowed, List.filter_filter]
  exact pairwise_eraseDups_filter _ entries

theorem lookup_key (reported : collision ∈ ofEntries entries) :
    (Index.build entries).lookup collision.key = some collision.winner := by
  obtain ⟨-, won, -⟩ := among?_eq_some_iff.mp (mem_ofEntries_iff.mp reported)
  have wrote := of_decide_eq_true (List.mem_filter.mp (List.mem_of_getLast? won)).2
  rw [Index.lookup_build_eq_getLast?, (Entry.mem_keys_iff_writes.mp wrote).key_eq, won]

/-- A key is reported just when entries that differ write it, and the keys stand in the order of
    their first write, so none is reported twice. The winner is what a look-up of the key finds. The
    others that write the key are all told, once each, in the order in which they first occur. -/
theorem ofEntries_exact (entries : List Entry) :
    (∀ key, (∃ collision ∈ ofEntries entries, collision.key = key) ↔
      ∃ one ∈ entries, ∃ other ∈ entries, one ≠ other ∧ one.Writes key ∧ other.Writes key) ∧
    ((ofEntries entries).map Collision.key).Pairwise (fun one other =>
      (entries.flatMap Entry.keys).idxOf one < (entries.flatMap Entry.keys).idxOf other) ∧
    ∀ collision ∈ ofEntries entries,
      (Index.build entries).lookup collision.key = some collision.winner ∧
      (∀ entry, entry ∈ collision.shadowed ↔
        entry ∈ entries ∧ entry ≠ collision.winner ∧ entry.Writes collision.key) ∧
      collision.shadowed.Pairwise fun one other => entries.idxOf one < entries.idxOf other := by
  refine ⟨?_, pairwise_key_ofEntries entries, ?_⟩
  · intro key
    exact exists_ofEntries_iff
  · intro collision reported
    exact ⟨lookup_key reported, fun _ => mem_shadowed_iff reported, pairwise_shadowed reported⟩

/-- An entry that writes a key with two of its names and stands between two copies of another. -/
theorem ofEntries_exact_schild :
    ofEntries [⟨"Shield", "Schild", "Bouclier"⟩, ⟨"Protect", "SCHILD", "Schild"⟩,
        ⟨"Shield", "Schild", "Bouclier"⟩] =
      [⟨"schild", ⟨"Shield", "Schild", "Bouclier"⟩, [⟨"Protect", "SCHILD", "Schild"⟩]⟩] ∧
    (Index.build [⟨"Shield", "Schild", "Bouclier"⟩, ⟨"Protect", "SCHILD", "Schild"⟩,
        ⟨"Shield", "Schild", "Bouclier"⟩]).lookup "schild" =
      some ⟨"Shield", "Schild", "Bouclier"⟩ := by
  have reported : ofEntries [⟨"Shield", "Schild", "Bouclier"⟩, ⟨"Protect", "SCHILD", "Schild"⟩,
        ⟨"Shield", "Schild", "Bouclier"⟩] =
      [⟨"schild", ⟨"Shield", "Schild", "Bouclier"⟩, [⟨"Protect", "SCHILD", "Schild"⟩]⟩] := by
    decide
  have listed : ⟨"schild", ⟨"Shield", "Schild", "Bouclier"⟩, [⟨"Protect", "SCHILD", "Schild"⟩]⟩ ∈
      ofEntries [⟨"Shield", "Schild", "Bouclier"⟩, ⟨"Protect", "SCHILD", "Schild"⟩,
        ⟨"Shield", "Schild", "Bouclier"⟩] := by
    rw [reported]
    exact List.mem_singleton_self _
  exact ⟨reported, ((ofEntries_exact _).2.2 _ listed).1⟩

end Collision
end Phrasebook
