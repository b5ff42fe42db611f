import Mathlib.Data.Finset.Card
import Mathlib.Data.Finset.Lattice.Lemmas
import Phrasebook.Proofs.Index.Lookup

/-! # The last entry of a name

An entry is called by each of its names, whatever their case. A look-up gives the last entry of the
dictionary that is called by the name, and so the look-ups of a dictionary that goes on after
another are its own first. The keys are the names in lower case, each counted once.
-/

namespace Phrasebook

/-- One of the entry's names is the given one but for its case; an empty name is none. -/
def Entry.IsCalled (entry : Entry) (name : String) : Prop :=
  ∃ language, entry.name language ≠ "" ∧
    Text.lowercase (entry.name language) = Text.lowercase name

theorem Entry.key_mem_keys_iff {entry : Entry} {name : String} :
    key name ∈ entry.keys ↔ entry.IsCalled name :=
  Entry.mem_keys

theorem Entry.not_isCalled_empty (entry : Entry) : ¬entry.IsCalled "" := by
  rintro ⟨language, named, same⟩
  exact named (Text.lowercase_eq_empty_iff.mp same)

theorem Entry.keys_eq_nil_iff {entry : Entry} :
    entry.keys = [] ↔ ∀ language, entry.name language = "" := by
  constructor
  · intro keyless language
    by_contra named
    have written := Entry.mem_keys.mpr ⟨language, named, rfl⟩
    rw [keyless] at written
    cases written
  · intro nameless
    refine List.eq_nil_iff_forall_not_mem.mpr fun key written => ?_
    obtain ⟨language, named, -⟩ := Entry.mem_keys.mp written
    exact named (nameless language)

namespace Index

/-! ## Look-ups -/

theorem lookup_build_append (entries later : List Entry) (name : String) :
    (build (entries ++ later)).lookup name =
      ((build later).lookup name).or ((build entries).lookup name) := by
  simp only [lookup_build, writes, writersOf, List.flatMap_append, List.filter_append,
    List.map_append, List.getLast?_append]

theorem lookup_build_singleton (entry : Entry) (name : String) :
    (build [entry]).lookup name = if key name ∈ entry.keys then some entry else none := by
  rw [lookup_build]
  have writers : ∀ writer ∈ writersOf (writes [entry]) (key name), writer = entry := by
    intro writer wrote
    simpa using (mem_writes.mp (mem_writersOf.mp wrote)).1
  split
  · next called =>
    have wrote := mem_writersOf.mpr (mem_writes.mpr ⟨List.mem_singleton_self entry, called⟩)
    rw [List.getLast?_eq_some_getLast (List.ne_nil_of_mem wrote),
      writers _ (List.getLast_mem _)]
  · next uncalled =>
    refine List.getLast?_eq_none_iff.mpr (List.eq_nil_iff_forall_not_mem.mpr fun writer wrote => ?_)
    have same := writers writer wrote
    subst same
    exact uncalled (mem_writes.mp (mem_writersOf.mp wrote)).2

/-- A look-up searches the dictionary from its end. -/
theorem lookup_build_eq_find? (entries : List Entry) (name : String) :
    (build entries).lookup name = entries.reverse.find? fun entry => key name ∈ entry.keys := by
  -- The entry at the end answers first, and only then those before it.
  induction entries using List.reverseRecOn with
  | nil => rw [lookup_build]; rfl
  | append_singleton before entry ih =>
      rw [lookup_build_append, lookup_build_singleton, ih, List.reverse_append,
        List.reverse_singleton, List.singleton_append, List.find?_cons]
      by_cases called : key name ∈ entry.keys <;> simp [called]

theorem lookup_build_eq_some_iff {entries : List Entry} {name : String} {entry : Entry} :
    (build entries).lookup name = some entry ↔
      ∃ before after, entries = before ++ entry :: after ∧ entry.IsCalled name ∧
        ∀ later ∈ after, ¬later.IsCalled name := by
  rw [lookup_build_eq_find?, List.find?_eq_some_iff_append]
  simp only [decide_eq_true_eq, Bool.not_eq_true', decide_eq_false_iff_not, Entry.key_mem_keys_iff]
  constructor
  · rintro ⟨called, after, before, turned, uncalled⟩
    refine ⟨before.reverse, after.reverse, ?_, called, by simpa using uncalled⟩
    rw [← List.reverse_reverse entries, turned]
    simp
  · rintro ⟨before, after, rfl, called, uncalled⟩
    exact ⟨called, after.reverse, before.reverse, by simp, by simpa using uncalled⟩

theorem lookup_build_eq_none_iff {entries : List Entry} {name : String} :
    (build entries).lookup name = none ↔ ∀ entry ∈ entries, ¬entry.IsCalled name := by
  rw [lookup_build_eq_find?, List.find?_eq_none]
  simp only [List.mem_reverse, decide_eq_true_eq, Entry.key_mem_keys_iff]

/-! ## Keys -/

theorem size_filled (written : List (String × Nat)) :
    (filled written).size = (written.map Prod.fst).toFinset.card := by
  induction written using List.reverseRecOn with
  | nil => simp [filled]
  | append_singleton before write ih =>
      have grown : filled (before ++ [write]) = (filled before).insert write.1 write.2 := by
        simp [filled]
      have known : write.1 ∈ filled before ↔ write.1 ∈ (before.map Prod.fst).toFinset := by
        rw [Std.HashMap.mem_iff_isSome_getElem?, getElem?_filled, List.getLast?_isSome]
        simp [List.eq_nil_iff_forall_not_mem]
      rw [grown, Std.HashMap.size_insert, ih, List.map_append, List.toFinset_append,
        Finset.union_comm, List.map_singleton, List.toFinset_cons, List.toFinset_nil,
        Finset.insert_union, Finset.empty_union, Finset.card_insert_eq_ite]
      simp only [known]

theorem size_build (entries : List Entry) :
    (build entries).size = (entries.flatMap Entry.keys).toFinset.card := by
  rw [← map_fst_places, ← size_filled]
  rfl

theorem isEmpty_build_iff {entries : List Entry} :
    (build entries).isEmpty = true ↔ ∀ entry ∈ entries, ∀ language, entry.name language = "" := by
  have unfilled : (build entries).isEmpty = ((build entries).size == 0) :=
    Std.HashMap.isEmpty_eq_size_eq_zero
  rw [unfilled, beq_iff_eq, size_build, Finset.card_eq_zero, List.toFinset_eq_empty_iff,
    List.flatMap_eq_nil_iff]
  simp only [Entry.keys_eq_nil_iff]

/-- Nothing is looked up outside the dictionary. A look-up gives the last entry that is called by
    the name, if there is one, so a dictionary that follows another answers before it, and no entry
    is called by the empty name. There are as many keys as names that differ in more than their
    case, and none at all just when no entry has a name. -/
theorem build_last_write_wins (entries : List Entry) :
    (∀ name, (build entries).byKey[key name]? = none ∧ (build entries).lookup name = none ∨
      ∃ place, ∃ inside : place < entries.length,
        (build entries).byKey[key name]? = some place ∧
          (build entries).lookup name = some entries[place]) ∧
    (∀ name entry, (build entries).lookup name = some entry ↔
      ∃ before after, entries = before ++ entry :: after ∧ entry.IsCalled name ∧
        ∀ later ∈ after, ¬later.IsCalled name) ∧
    (∀ name, (build entries).lookup name = none ↔ ∀ entry ∈ entries, ¬entry.IsCalled name) ∧
    (build entries).lookup "" = none ∧
    (∀ later name, (build (entries ++ later)).lookup name =
      ((build later).lookup name).or ((build entries).lookup name)) ∧
    (build entries).size =
      (((entries.flatMap Entry.names).filter (· != "")).map Text.lowercase).toFinset.card ∧
    ((build entries).isEmpty = true ↔
      ∀ entry ∈ entries, ∀ language, entry.name language = "") := by
  refine ⟨fun name => ?_, fun _ _ => lookup_build_eq_some_iff, fun _ => lookup_build_eq_none_iff,
    lookup_build_eq_none_iff.mpr fun entry _ => entry.not_isCalled_empty,
    lookup_build_append entries, ?_, isEmpty_build_iff⟩
  · rw [lookup_eq_bind]
    cases found : (build entries).byKey[key name]? with
    | none => exact .inl ⟨rfl, rfl⟩
    | some place =>
        have inside := (build entries).place_lt found
        exact .inr ⟨place, inside, rfl, List.getElem?_eq_getElem inside⟩
  · rw [size_build]
    have names : entries.flatMap Entry.keys =
        ((entries.flatMap Entry.names).filter (· != "")).map Text.lowercase := by
      rw [List.filter_flatMap, List.map_flatMap]
      rfl
    rw [names]

end Index

end Phrasebook
