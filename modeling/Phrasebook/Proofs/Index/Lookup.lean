import Phrasebook.Index

/-! # What an index finds

The map of an index is filled write by write, and what is found under a key is the entry at the
place that was written there last. The writes of a dictionary are told by entry and language, so
that a look-up says which name of which entry it goes back to.
-/

namespace Phrasebook

/-! ## Writes -/

theorem Entry.mem_keys {entry : Entry} {written : String} :
    written ∈ entry.keys ↔
      ∃ language, entry.name language ≠ "" ∧ key (entry.name language) = written := by
  simp only [keys, names, List.mem_map, List.mem_filter, bne_iff_ne]
  constructor
  · rintro ⟨_, ⟨⟨language, -, rfl⟩, filled⟩, same⟩
    exact ⟨language, filled, same⟩
  · rintro ⟨language, filled, same⟩
    exact ⟨_, ⟨⟨language, language.mem_all, rfl⟩, filled⟩, same⟩

theorem mem_writes {entries : List Entry} {written : String} {entry : Entry} :
    (written, entry) ∈ writes entries ↔ entry ∈ entries ∧ written ∈ entry.keys := by
  simp only [writes, List.mem_flatMap, List.mem_map, Prod.mk.injEq]
  constructor
  · rintro ⟨_, member, _, known, rfl, rfl⟩
    exact ⟨member, known⟩
  · rintro ⟨member, known⟩
    exact ⟨entry, member, written, known, rfl, rfl⟩

/-! ## Look-ups -/

namespace Index

/-- The entries that write a key, in order. -/
def writersOf (written : List (String × Entry)) (key : String) : List Entry :=
  (written.filter fun write => write.1 == key).map Prod.snd

theorem mem_writersOf {written : List (String × Entry)} {key : String} {entry : Entry} :
    entry ∈ writersOf written key ↔ (key, entry) ∈ written := by
  simp [writersOf]

/-- Place by place, the keys of a dictionary are written by the entries at these places. -/
theorem map_places (entries : List Entry) :
    (places entries).map (fun write => (write.1, entries[write.2]?)) =
      (writes entries).map fun write => (write.1, some write.2) := by
  have placed : ∀ numbered ∈ entries.zipIdx,
      (numbered.1.keys.map fun key => (key, entries[numbered.2]?)) =
        numbered.1.keys.map fun key => (key, some numbered.1) := fun numbered member => by
    rw [List.mem_zipIdx_iff_getElem?.mp member]
  calc (places entries).map (fun write => (write.1, entries[write.2]?))
      = entries.zipIdx.flatMap fun numbered =>
          numbered.1.keys.map fun key => (key, entries[numbered.2]?) := by
        simp [places, List.map_flatMap, Function.comp_def]
    _ = entries.zipIdx.flatMap fun numbered =>
          numbered.1.keys.map fun key => (key, some numbered.1) := by
        rw [List.flatMap, List.flatMap, List.map_congr_left placed]
    _ = (entries.zipIdx.map Prod.fst).flatMap fun entry =>
          entry.keys.map fun key => (key, some entry) := by
        rw [List.flatMap_map]
    _ = (writes entries).map fun write => (write.1, some write.2) := by
        simp [writes, List.map_flatMap, Function.comp_def]

theorem map_fst_places (entries : List Entry) :
    (places entries).map Prod.fst = entries.flatMap Entry.keys := by
  have written := congrArg (List.map Prod.fst) (map_places entries)
  simpa [writes, List.map_flatMap, Function.comp_def] using written

/-- The places at which a key is written are those of the entries that write it. -/
theorem map_placesOf (entries : List Entry) (key : String) :
    (((places entries).filter fun write => write.1 == key).map Prod.snd).map (entries[·]?) =
      (writersOf (writes entries) key).map some := by
  have written := congrArg
    (fun list : List (String × Option Entry) =>
      (list.filter fun write => write.1 == key).map Prod.snd) (map_places entries)
  simpa [writersOf, List.filter_map, Function.comp_def] using written

/-- Under a key lies the place of the entry that wrote it last. -/
theorem map_byKey_build (entries : List Entry) (key : String) :
    (build entries).byKey[key]?.map (entries[·]?) =
      (writersOf (writes entries) key).getLast?.map some := by
  simp only [build]
  rw [getElem?_filled, ← List.getLast?_map, map_placesOf, List.getLast?_map]

/-- A look-up gives the entry that wrote the key last. -/
theorem lookup_build (entries : List Entry) (name : String) :
    (build entries).lookup name = (writersOf (writes entries) (key name)).getLast? := by
  have last := map_byKey_build entries (key name)
  rw [lookup_eq_bind]
  cases placed : (build entries).byKey[key name]? with
  | none =>
      rw [placed, Option.map_none] at last
      exact (Option.map_eq_none_iff.mp last.symm).symm
  | some place =>
      rw [placed, Option.map_some] at last
      obtain ⟨entry, wrote, found⟩ := Option.map_eq_some_iff.mp last.symm
      rw [wrote, Option.bind_some]
      exact found.symm

theorem written_of_lookup {entries : List Entry} {name : String} {entry : Entry}
    (found : (build entries).lookup name = some entry) : (key name, entry) ∈ writes entries := by
  rw [lookup_build] at found
  exact mem_writersOf.mp (List.mem_of_getLast? found)

end Index

end Phrasebook
