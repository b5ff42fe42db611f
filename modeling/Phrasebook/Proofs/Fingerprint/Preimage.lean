import Phrasebook.Fingerprint

/-! # What a fingerprint is made from

The bytes of a dictionary can be read back: every name follows its length, so a name ends where its
length says and nowhere else, whatever is in it. Two dictionaries with the same fingerprint are then
the same, or their bytes are two messages with one digest.
-/

namespace Phrasebook

/-! ## Texts and their bytes -/

namespace Text

theorem toByteArray_encodeUtf8 (text : String) :
    (encodeUtf8 text.toList).toByteArray = text.toByteArray :=
  String.utf8Encode_toList

theorem length_encodeUtf8 (text : String) :
    (encodeUtf8 text.toList).length = text.utf8ByteSize := by
  rw [← String.size_toByteArray, ← toByteArray_encodeUtf8, List.size_toByteArray]

theorem encodeUtf8_inj {one other : String}
    (same : encodeUtf8 one.toList = encodeUtf8 other.toList) : one = other := by
  rw [← String.toByteArray_inj, ← toByteArray_encodeUtf8, same, toByteArray_encodeUtf8]

end Text

/-! ## Hexadecimal text -/

namespace Digest

theorem digitChar_inj {one other : Nat} (below : one < 16) (belowToo : other < 16)
    (same : Nat.digitChar one = Nat.digitChar other) : one = other := by
  have all : ∀ one other : Fin 16, Nat.digitChar one = Nat.digitChar other → one = other := by
    decide
  exact congrArg Fin.val (all ⟨one, below⟩ ⟨other, belowToo⟩ same)

theorem hex_inj {one other : List UInt8} (same : hex one = hex other) : one = other := by
  have digits := String.ofList_injective same
  clear same
  induction one generalizing other with
  | nil =>
      cases other with
      | nil => rfl
      | cons byte rest => cases digits
  | cons byte rest ih =>
      cases other with
      | nil => cases digits
      | cons byteToo restToo =>
          simp only [List.flatMap_cons, List.cons_append, List.nil_append,
            List.cons.injEq] at digits
          obtain ⟨high, low, later⟩ := digits
          have small := byte.toNat_lt
          have smallToo := byteToo.toNat_lt
          have upper := digitChar_inj (by omega) (by omega) high
          have lower := digitChar_inj (by omega) (by omega) low
          have value : byte.toNat = byteToo.toNat := by omega
          rw [UInt8.toNat_inj.mp value, ih later]

end Digest

/-! ## The bytes of a dictionary -/

/-- The length of every name fits into the eight bytes that stand for it, as it does for every text
    that a machine can keep. -/
def Entry.IsStorable (entry : Entry) : Prop :=
  ∀ name ∈ entry.names, name.utf8ByteSize < UInt64.size

instance (entry : Entry) : Decidable entry.IsStorable :=
  inferInstanceAs (Decidable (∀ name ∈ entry.names, name.utf8ByteSize < UInt64.size))

namespace Fingerprint

/-- The digits of a number to the base 256, the lowest first. -/
theorem toNat_lengthMark {n : Nat} (below : n < UInt64.size) :
    (lengthMark n).map UInt8.toNat =
      [n % 256, n / 256 % 256, n / 65536 % 256, n / 16777216 % 256, n / 4294967296 % 256,
        n / 1099511627776 % 256, n / 281474976710656 % 256, n / 72057594037927936 % 256] := by
  have word : n % 18446744073709551616 = n := Nat.mod_eq_of_lt below
  simp [lengthMark, Nat.shiftRight_eq_div_pow, word]

theorem lengthMark_inj {one other : Nat} (below : one < UInt64.size)
    (belowToo : other < UInt64.size) (same : lengthMark one = lengthMark other) : one = other := by
  have digits := congrArg (List.map UInt8.toNat) same
  rw [toNat_lengthMark below, toNat_lengthMark belowToo] at digits
  simp only [List.cons.injEq] at digits
  have size : UInt64.size = 18446744073709551616 := rfl
  omega

/-- A name is read off the front of what follows it in one way only. -/
theorem markedName_append_inj {one other : String} {rest restToo : List UInt8}
    (below : one.utf8ByteSize < UInt64.size) (belowToo : other.utf8ByteSize < UInt64.size)
    (same : markedName one ++ rest = markedName other ++ restToo) :
    one = other ∧ rest = restToo := by
  simp only [markedName, Text.length_encodeUtf8, List.append_assoc] at same
  obtain ⟨marks, same⟩ := List.append_inj same rfl
  have size := lengthMark_inj below belowToo marks
  obtain ⟨bytes, later⟩ := List.append_inj same (by simp only [Text.length_encodeUtf8, size])
  exact ⟨Text.encodeUtf8_inj bytes, later⟩

theorem markedEntry_append_inj {one other : Entry} {rest restToo : List UInt8}
    (storable : one.IsStorable) (storableToo : other.IsStorable)
    (same : markedEntry one ++ rest = markedEntry other ++ restToo) :
    one = other ∧ rest = restToo := by
  simp only [Entry.IsStorable, Entry.names, Language.all, List.map_cons, List.map_nil,
    List.forall_mem_cons] at storable storableToo
  simp only [markedEntry, Entry.names, Language.all, List.map_cons, List.map_nil,
    List.flatMap_cons, List.flatMap_nil, List.append_nil, List.append_assoc] at same
  obtain ⟨en, same⟩ := markedName_append_inj storable.1 storableToo.1 same
  obtain ⟨de, same⟩ := markedName_append_inj storable.2.1 storableToo.2.1 same
  obtain ⟨fr, later⟩ := markedName_append_inj storable.2.2.1 storableToo.2.2.1 same
  exact ⟨by cases one; cases other; simp_all [Entry.name], later⟩

theorem markedEntry_ne_nil (entry : Entry) : markedEntry entry ≠ [] := by
  simp [markedEntry, Entry.names, Language.all, markedName, lengthMark]

/-- A dictionary can be read back from its bytes. -/
theorem eq_of_preimage_eq {one other : List Entry} (storable : ∀ entry ∈ one, entry.IsStorable)
    (storableToo : ∀ entry ∈ other, entry.IsStorable) (same : preimage one = preimage other) :
    one = other := by
  induction one generalizing other with
  | nil =>
      cases other with
      | nil => rfl
      | cons entry rest => simp [preimage, markedEntry_ne_nil] at same
  | cons entry rest ih =>
      cases other with
      | nil => simp [preimage, markedEntry_ne_nil] at same
      | cons entryToo restToo =>
          rw [List.forall_mem_cons] at storable storableToo
          simp only [preimage, List.flatMap_cons] at same
          obtain ⟨rfl, later⟩ := markedEntry_append_inj storable.1 storableToo.1 same
          rw [ih storable.2 storableToo.2 later]

theorem ofEntries_eq_iff {one other : List Entry} :
    ofEntries one = ofEntries other ↔
      Digest.sha256 (preimage one) = Digest.sha256 (preimage other) :=
  ⟨Digest.hex_inj, congrArg Digest.hex⟩

end Fingerprint

end Phrasebook
