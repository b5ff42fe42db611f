import Phrasebook.Fingerprint
import Std.Data.HashMap

/-! # Looking names up

All names of a dictionary lie in one space of lower-case keys, whatever their language. Keys are
written entry by entry, and within an entry in the order of the languages; the last write of a key
is the one that counts. An index keeps under each key the place of the entry that wrote it last.
-/

namespace Phrasebook

/-- The key under which a name is found. -/
def key (name : String) : String :=
  Text.lowercase name

/-- The keys that an entry writes: those of its names that are not empty, in order. -/
def Entry.keys (entry : Entry) : List String :=
  (entry.names.filter fun name => name != "").map key

/-- Every key that a dictionary writes, in order, with the entry that writes it. -/
def writes (entries : List Entry) : List (String × Entry) :=
  entries.flatMap fun entry => entry.keys.map fun key => (key, entry)

/-- Every key that a dictionary writes, in order, with the place of the entry that writes it. -/
def places (entries : List Entry) : List (String × Nat) :=
  entries.zipIdx.flatMap fun (entry, place) => entry.keys.map fun key => (key, place)

/-- What is left under each key when one write follows the other. -/
def filled (written : List (String × Nat)) : Std.HashMap String Nat :=
  written.foldl (fun map (key, place) => map.insert key place) ∅

/-- Writing one after the other leaves under a key what was written last, or what was there. -/
theorem getElem?_foldl_insert (written : List (String × Nat)) (map : Std.HashMap String Nat)
    (key : String) :
    (written.foldl (fun map (key, place) => map.insert key place) map)[key]? =
      ((written.filter fun write => write.1 == key).map Prod.snd).getLast?.or map[key]? := by
  induction written generalizing map with
  | nil => rfl
  | cons first rest ih =>
      rw [List.foldl_cons, ih, Std.HashMap.getElem?_insert]
      by_cases same : first.1 = key
      · rw [if_pos (beq_iff_eq.mpr same), List.filter_cons_of_pos (by simpa using same)]
        cases later : rest.filter fun write => write.1 == key with
        | nil => rfl
        | cons write others => simp [List.getLast?_eq_some_getLast]
      · rw [if_neg (by simpa using same), List.filter_cons_of_neg (by simpa using same)]

theorem getElem?_filled (written : List (String × Nat)) (key : String) :
    (filled written)[key]? =
      ((written.filter fun write => write.1 == key).map Prod.snd).getLast? := by
  rw [filled, getElem?_foldl_insert, Std.HashMap.getElem?_empty, Option.or_none]

/-- Places are places of entries. -/
theorem place_lt_length {entries : List Entry} {key : String} {place : Nat}
    (found : (filled (places entries))[key]? = some place) : place < entries.length := by
  rw [getElem?_filled] at found
  obtain ⟨write, listed, rfl⟩ := List.mem_map.mp (List.mem_of_getLast? found)
  obtain ⟨⟨entry, place⟩, placed, written⟩ :=
    List.mem_flatMap.mp (List.mem_filter.mp listed).1
  obtain ⟨_, -, rfl⟩ := List.mem_map.mp written
  exact (List.getElem?_eq_some_iff.mp (List.mem_zipIdx_iff_getElem?.mp placed)).1

/-- A dictionary made ready for looking names up: under each key the place of the entry that is
    found there. -/
structure Index where
  entries : List Entry
  byKey : Std.HashMap String Nat
  fingerprint : String
  place_lt : ∀ {key : String} {place : Nat}, byKey[key]? = some place → place < entries.length

namespace Index

/-- The index before any dictionary was set. It has no fingerprint, so no dictionary is current for
    it, not even an empty one. -/
def unset : Index where
  entries := []
  byKey := ∅
  fingerprint := ""
  place_lt := by simp

/-- The index of a dictionary. -/
def build (entries : List Entry) : Index where
  entries := entries
  byKey := filled (places entries)
  fingerprint := Fingerprint.ofEntries entries
  place_lt := place_lt_length

/-- The entry that a name leads to. -/
def lookup (index : Index) (name : String) : Option Entry :=
  match found : index.byKey[key name]? with
  | some place => some (index.entries.get ⟨place, index.place_lt found⟩)
  | none => none

theorem lookup_eq_bind (index : Index) (name : String) :
    index.lookup name = index.byKey[key name]?.bind fun place => index.entries[place]? := by
  unfold lookup
  split
  · next place found => simp [found, List.getElem?_eq_getElem (index.place_lt found)]
  · next absent => simp [absent]

def isEmpty (index : Index) : Bool :=
  index.byKey.isEmpty

def size (index : Index) : Nat :=
  index.byKey.size

/-- Whether the index was built from a dictionary, as far as the fingerprint tells. -/
def isCurrentFor (index : Index) (entries : List Entry) : Bool :=
  index.fingerprint == Fingerprint.ofEntries entries

end Index
end Phrasebook
