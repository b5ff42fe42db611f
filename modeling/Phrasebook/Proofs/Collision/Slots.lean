import Mathlib.Data.List.Basic
import Mathlib.Data.List.Induction
import Phrasebook.Collision
import Phrasebook.Proofs.Index.Lookup

/-! # What the slots hold

Slots are filled write by write, and a slot looks at nothing but its last place to tell whether an
entry was noted already. Since places only rise, that is enough: each slot ends up with every place
whose entry writes its key, once and in order. The report of a dictionary is therefore told by its
keys and the entries that write them, without the slots.
-/

namespace Phrasebook

namespace Collision

variable {filled : Slots} {key other : String} {place : Nat}

/-- The places that are noted for a key. -/
def under (filled : Slots) (key : String) : List Nat :=
  (filled.lookup key).getD []

/-! ## One write -/

theorem under_cons (first : String) (slot : List Nat) (rest : Slots) (key : String) :
    under ((first, slot) :: rest) key = if first = key then slot else under rest key := by
  unfold under
  by_cases same : key = first
  · subst same
    simp
  · rw [List.lookup_cons, beq_eq_false_iff_ne.mpr same, if_neg (Ne.symm same)]

theorem under_note (key other : String) (place : Nat) (filled : Slots) :
    under (note key place filled) other =
      if other = key then noted (under filled key) place else under filled other := by
  induction filled with
  | nil =>
      rw [note, under_cons]
      by_cases same : other = key
      · rw [if_pos same, if_pos same.symm]
        rfl
      · rw [if_neg same, if_neg (Ne.symm same)]
  | cons slot rest ih =>
      obtain ⟨first, slot⟩ := slot
      rw [note]
      by_cases here : first = key
      · subst here
        rw [if_pos rfl]
        simp only [under_cons, if_true, eq_comm (a := first)]
        split <;> rfl
      · rw [if_neg here, under_cons, under_cons, under_cons, if_neg here, ih]
        by_cases same : first = other
        · subst same
          rw [if_pos rfl, if_pos rfl, if_neg here]
        · rw [if_neg same, if_neg same]

theorem map_fst_note (key : String) (place : Nat) (filled : Slots) :
    (note key place filled).map Prod.fst =
      if key ∈ filled.map Prod.fst then filled.map Prod.fst
      else filled.map Prod.fst ++ [key] := by
  induction filled with
  | nil => rfl
  | cons slot rest ih =>
      obtain ⟨first, slot⟩ := slot
      rw [note]
      by_cases here : first = key
      · simp [here]
      · rw [if_neg here, List.map_cons, List.map_cons, ih]
        simp only [List.mem_cons, Ne.symm here, false_or]
        split <;> rfl

/-! ## Order of first occurrence -/

/-- Of the items that pass a test, each is kept where it occurs first. -/
theorem pairwise_eraseDups_filter {α : Type} [DecidableEq α] (keep : α → Bool) (items : List α) :
    (items.filter keep).eraseDups.Pairwise fun one other =>
      items.idxOf one < items.idxOf other := by
  induction items generalizing keep with
  | nil => exact .nil
  | cons first rest ih =>
      have behind {item : α} (other : item ≠ first) :
          (first :: rest).idxOf item = rest.idxOf item + 1 := List.idxOf_cons_ne _ (Ne.symm other)
      have later (keep : α → Bool) (others : ∀ item, keep item = true → item ≠ first) :
          (rest.filter keep).eraseDups.Pairwise fun one other =>
            (first :: rest).idxOf one < (first :: rest).idxOf other := by
        have apart {item : α} (member : item ∈ (rest.filter keep).eraseDups) : item ≠ first :=
          others item (List.mem_filter.mp (List.mem_eraseDups.mp member)).2
        apply (ih keep).imp_of_mem
        intro one other member memberToo before
        rw [behind (apart member), behind (apart memberToo)]
        exact Nat.succ_lt_succ before
      by_cases kept : keep first = true
      · rw [List.filter_cons_of_pos kept, List.eraseDups_cons, List.filter_filter]
        refine List.pairwise_cons.mpr ⟨?_, later _ (by simp +contextual)⟩
        intro item member
        have apart : item ≠ first := by
          rintro rfl
          simp at member
        rw [behind apart, List.idxOf_cons_self]
        exact Nat.succ_pos _
      · rw [List.filter_cons_of_neg kept]
        exact later keep fun item test same => kept (same ▸ test)

/-! ## All writes -/

theorem eraseDups_concat (keys : List String) (key : String) :
    (keys ++ [key]).eraseDups = if key ∈ keys then keys.eraseDups else keys.eraseDups ++ [key] := by
  rw [List.eraseDups_append]
  by_cases known : key ∈ keys
  · simp [known, List.removeAll]
  · simp [known, List.removeAll, List.eraseDups_cons]

theorem map_fst_foldl_note (written : List (String × Nat)) :
    ((written.foldl (fun filled (key, place) => note key place filled) []).map Prod.fst) =
      (written.map Prod.fst).eraseDups := by
  induction written using List.reverseRecOn with
  | nil => rfl
  | append_singleton before write ih =>
      rw [List.foldl_concat, map_fst_note, ih, List.map_append, List.map_singleton,
        eraseDups_concat]
      simp only [List.mem_eraseDups]

/-- The keys of one entry, written where its place is not noted yet. -/
theorem under_foldl_note (keys : List String) (filled : Slots)
    (fresh : ∀ key, (under filled key).getLast? ≠ some place) (other : String) :
    under (keys.foldl (fun filled key => note key place filled) filled) other =
      if other ∈ keys then under filled other ++ [place] else under filled other := by
  -- Once a key of the entry is noted, its place is the last of the slot and is not noted again.
  induction keys using List.reverseRecOn with
  | nil => rfl
  | append_singleton before key ih =>
      rw [List.foldl_concat, under_note]
      by_cases same : other = key
      · subst same
        have written : other ∈ before ++ [other] := List.mem_concat_self
        rw [if_pos rfl, ih, if_pos written]
        by_cases known : other ∈ before
        · rw [if_pos known, noted, if_pos List.getLast?_concat]
        · rw [if_neg known, noted, if_neg (fresh other)]
      · rw [if_neg same, ih]
        simp only [List.mem_append, List.mem_singleton, same, or_false]

theorem places_concat (entries : List Entry) (entry : Entry) :
    places (entries ++ [entry]) =
      places entries ++ entry.keys.map fun key => (key, entries.length) := by
  simp [places, List.zipIdx_append]

theorem slots_concat (entries : List Entry) (entry : Entry) :
    slots (entries ++ [entry]) =
      entry.keys.foldl (fun filled key => note key entries.length filled) (slots entries) := by
  rw [slots, places_concat, List.foldl_append, List.foldl_map]
  rfl

/-- The places of the entries that write a key. -/
def writingPlaces (entries : List Entry) (key : String) : List Nat :=
  (entries.zipIdx.filter fun numbered => key ∈ numbered.1.keys).map Prod.snd

theorem lt_length_of_mem_writingPlaces {entries : List Entry}
    (member : place ∈ writingPlaces entries key) : place < entries.length := by
  obtain ⟨numbered, listed, rfl⟩ := List.mem_map.mp member
  have found := List.mem_zipIdx_iff_getElem?.mp (List.mem_filter.mp listed).1
  exact (List.getElem?_eq_some_iff.mp found).1

theorem under_slots (entries : List Entry) (key : String) :
    under (slots entries) key = writingPlaces entries key := by
  induction entries using List.reverseRecOn generalizing key with
  | nil => rfl
  | append_singleton before entry ih =>
      have fresh : ∀ key, (under (slots before) key).getLast? ≠ some before.length := by
        intro key last
        rw [ih] at last
        exact absurd (lt_length_of_mem_writingPlaces (List.mem_of_getLast? last))
          (Nat.lt_irrefl _)
      have last : writingPlaces (before ++ [entry]) key =
          writingPlaces before key ++ if key ∈ entry.keys then [before.length] else [] := by
        unfold writingPlaces
        rw [List.zipIdx_append, List.filter_append, List.map_append]
        congr 1
        by_cases wrote : key ∈ entry.keys <;> simp [wrote]
      rw [slots_concat, under_foldl_note _ _ fresh, ih, last]
      split
      · rfl
      · rw [List.append_nil]

/-- What stands at these places are the entries that write the key. -/
theorem filterMap_writingPlaces (entries : List Entry) (key : String) :
    (writingPlaces entries key).filterMap (entries[·]?) =
      entries.filter fun entry => key ∈ entry.keys := by
  have stands : ∀ numbered ∈ entries.zipIdx.filter fun numbered => key ∈ numbered.1.keys,
      entries[numbered.2]? = some numbered.1 := by
    intro numbered member
    exact List.mem_zipIdx_iff_getElem?.mp (List.mem_filter.mp member).1
  calc (writingPlaces entries key).filterMap (entries[·]?)
      = (entries.zipIdx.filter fun numbered => key ∈ numbered.1.keys).filterMap fun numbered =>
          entries[numbered.2]? := by
        rw [writingPlaces, List.filterMap_map]
        rfl
    _ = (entries.zipIdx.filter fun numbered => key ∈ numbered.1.keys).map Prod.fst := by
        rw [List.filterMap_congr stands, ← List.filterMap_eq_map]
        rfl
    _ = (entries.zipIdx.map Prod.fst).filter fun entry => key ∈ entry.keys := by
        rw [List.filter_map]
        rfl
    _ = entries.filter fun entry => key ∈ entry.keys := by
        rw [List.zipIdx_map_fst]

/-! ## The report -/

/-- The different keys of a dictionary, in the order in which they were first written. -/
def keysInOrder (entries : List Entry) : List String :=
  (entries.flatMap Entry.keys).eraseDups

theorem pairwise_keysInOrder (entries : List Entry) :
    (keysInOrder entries).Pairwise fun one other =>
      (entries.flatMap Entry.keys).idxOf one < (entries.flatMap Entry.keys).idxOf other := by
  have ordered := pairwise_eraseDups_filter (fun _ => true) (entries.flatMap Entry.keys)
  rwa [List.filter_true] at ordered

theorem nodup_keysInOrder (entries : List Entry) : (keysInOrder entries).Nodup := by
  refine (pairwise_keysInOrder entries).imp ?_
  rintro one _ before rfl
  exact Nat.lt_irrefl _ before

theorem map_fst_slots (entries : List Entry) :
    (slots entries).map Prod.fst = keysInOrder entries := by
  rw [slots, map_fst_foldl_note, Index.map_fst_places, keysInOrder]

theorem eq_map_under (distinct : (filled.map Prod.fst).Nodup) :
    filled = (filled.map Prod.fst).map fun key => (key, under filled key) := by
  induction filled with
  | nil => rfl
  | cons slot rest ih =>
      obtain ⟨first, slot⟩ := slot
      obtain ⟨apart, distinct⟩ := List.nodup_cons.mp distinct
      have others : (rest.map Prod.fst).map (fun key => (key, under ((first, slot) :: rest) key)) =
          (rest.map Prod.fst).map fun key => (key, under rest key) := by
        apply List.map_congr_left
        intro key member
        have other : first ≠ key := fun same => apart (same ▸ member)
        rw [under_cons, if_neg other]
      rw [List.map_cons, List.map_cons, others, ← ih distinct, under_cons, if_pos rfl]

/-- The report goes through the keys in order and looks at the entries that write each of them. -/
theorem ofEntries_eq (entries : List Entry) :
    ofEntries entries = (keysInOrder entries).filterMap fun key =>
      among? key (entries.filter fun entry => key ∈ entry.keys) := by
  have distinct : ((slots entries).map Prod.fst).Nodup := by
    rw [map_fst_slots]
    exact nodup_keysInOrder entries
  rw [ofEntries, eq_map_under distinct, map_fst_slots, List.filterMap_map]
  apply List.filterMap_congr
  intro key _
  simp only [Function.comp, under_slots, filterMap_writingPlaces]

end Collision
end Phrasebook
