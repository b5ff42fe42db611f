import Phrasebook.Index
import Phrasebook.Proofs.Fingerprint.Preimage

/-! # Whether an index is current

An index is current for a dictionary if their fingerprints are the same. It always is for the
dictionary that it was built from. Since the bytes that are hashed can be read back, it is for no
other, unless two messages with one digest have been found.
-/

namespace Phrasebook

/-- Two messages with one digest. -/
structure Digest.Collide (one other : List UInt8) : Prop where
  apart : one ≠ other
  digest : sha256 one = sha256 other

namespace Index

open Digest Fingerprint

theorem isCurrentFor_build {entries dictionary : List Entry} :
    (build entries).isCurrentFor dictionary = true ↔
      sha256 (preimage entries) = sha256 (preimage dictionary) := by
  rw [← ofEntries_eq_iff]
  exact beq_iff_eq

theorem isCurrentFor_build_self (entries : List Entry) :
    (build entries).isCurrentFor entries = true :=
  isCurrentFor_build.mpr rfl

/-- An index is current for the dictionary that it was built from. The bytes of two dictionaries are
    the same only if the dictionaries are, whatever is in their names, as long as the length of a
    name fits into eight bytes. So an index is current for another dictionary just when the bytes of
    the two are different messages with one digest. -/
theorem isCurrentFor_build_exact (entries : List Entry) :
    (build entries).isCurrentFor entries = true ∧
    ∀ dictionary, (∀ entry ∈ entries, entry.IsStorable) →
      (∀ entry ∈ dictionary, entry.IsStorable) →
      (preimage entries = preimage dictionary ↔ entries = dictionary) ∧
      ((build entries).isCurrentFor dictionary = true ↔
        entries = dictionary ∨ Collide (preimage entries) (preimage dictionary)) := by
  refine ⟨isCurrentFor_build_self entries, ?_⟩
  intro dictionary storable storableToo
  have read : preimage entries = preimage dictionary ↔ entries = dictionary :=
    ⟨eq_of_preimage_eq storable storableToo, congrArg preimage⟩
  refine ⟨read, ?_⟩
  constructor
  · intro current
    by_cases same : entries = dictionary
    · exact .inl same
    · exact .inr ⟨fun bytes => same (read.mp bytes), isCurrentFor_build.mp current⟩
  · rintro (rfl | collide)
    · exact isCurrentFor_build_self entries
    · exact isCurrentFor_build.mpr collide.digest

/-- A name that looks like the mark of a length, and a character that stands on the other side of
    the border between two names. -/
theorem isCurrentFor_build_exact_nul :
    (∀ entry ∈ [(⟨"a\x00", "b\x01\x00\x00\x00\x00\x00\x00\x00", ""⟩ : Entry)], entry.IsStorable) ∧
    (∀ entry ∈ [(⟨"a", "\x00b\x01\x00\x00\x00\x00\x00\x00\x00", ""⟩ : Entry)], entry.IsStorable) ∧
    preimage [⟨"a\x00", "b\x01\x00\x00\x00\x00\x00\x00\x00", ""⟩] ≠
      preimage [⟨"a", "\x00b\x01\x00\x00\x00\x00\x00\x00\x00", ""⟩] := by
  have storable : ∀ entry ∈ [(⟨"a\x00", "b\x01\x00\x00\x00\x00\x00\x00\x00", ""⟩ : Entry)],
      entry.IsStorable := by decide
  have storableToo : ∀ entry ∈ [(⟨"a", "\x00b\x01\x00\x00\x00\x00\x00\x00\x00", ""⟩ : Entry)],
      entry.IsStorable := by decide
  refine ⟨storable, storableToo, fun same => ?_⟩
  have alike := ((isCurrentFor_build_exact _).2 _ storable storableToo).1.mp same
  revert alike
  decide

end Index
end Phrasebook
