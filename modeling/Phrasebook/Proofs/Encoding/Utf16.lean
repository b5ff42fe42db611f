import Phrasebook.Encoding.Utf16
import Phrasebook.Proofs.Text.Utf8

/-! # UTF-16 read back

The reader takes from the front of a text's bytes exactly its first character: one unit, or the two
halves of a surrogate pair, of which the first one waits for the second. No unit of a character by
itself is a surrogate, so nothing is marked as malformed.
-/

namespace Phrasebook.Encoding

open Text (toNat_cases)

/-! ## Units -/

theorem unit_bytes (order : ByteOrder) {unit : Nat} (small : unit < 0x10000) :
    ∃ first second, order.bytes unit = [first, second] ∧ order.unit first second = unit := by
  have low : (UInt8.ofNat unit).toNat = unit % 256 := by simp
  have high : (UInt8.ofNat (unit / 256)).toNat = unit / 256 :=
    UInt8.toNat_ofNat_of_lt' (Nat.div_lt_of_lt_mul small)
  cases order with
  | little =>
      refine ⟨_, _, rfl, ?_⟩
      rw [ByteOrder.unit, low, high]
      exact Nat.div_add_mod' unit 256
  | big =>
      refine ⟨_, _, rfl, ?_⟩
      rw [ByteOrder.unit, low, high]
      exact Nat.div_add_mod' unit 256

/-- The two bytes of a unit are read as the unit. -/
theorem decodeUtf16From_bytes (order : ByteOrder) {unit : Nat} (small : unit < 0x10000)
    (rest : List UInt8) :
    decodeUtf16From order none (order.bytes unit ++ rest) =
      (readUnit unit).1 ++ decodeUtf16From order (readUnit unit).2 rest := by
  obtain ⟨first, second, bytes, same⟩ := unit_bytes order small
  simp only [bytes, List.cons_append, List.nil_append, decodeUtf16From, same]

theorem decodeUtf16From_bytes_after (order : ByteOrder) (high : Nat) {unit : Nat}
    (small : unit < 0x10000) (rest : List UInt8) :
    decodeUtf16From order (some high) (order.bytes unit ++ rest) =
      (readUnitAfter high unit).1 ++ decodeUtf16From order (readUnitAfter high unit).2 rest := by
  obtain ⟨first, second, bytes, same⟩ := unit_bytes order small
  simp only [bytes, List.cons_append, List.nil_append, decodeUtf16From, same]

theorem readUnit_of_plain {unit : Nat} (plain : unit < 0xD800 ∨ 0xDFFF < unit) :
    readUnit unit = ([some (Char.ofNat unit)], none) := by
  have notHigh : isHighSurrogate unit = false := by
    simp only [isHighSurrogate, Bool.and_eq_false_iff, decide_eq_false_iff_not]
    omega
  have notLow : isLowSurrogate unit = false := by
    simp only [isLowSurrogate, Bool.and_eq_false_iff, decide_eq_false_iff_not]
    omega
  rw [readUnit, notHigh, notLow]
  rfl

theorem readUnit_high {k : Nat} (small : k < 0x400) :
    readUnit (0xD800 + k) = ([], some (0xD800 + k)) := by
  have high : isHighSurrogate (0xD800 + k) = true := by
    simp only [isHighSurrogate, Bool.and_eq_true, decide_eq_true_eq]
    omega
  rw [readUnit, if_pos high]

theorem readUnitAfter_low {j k : Nat} (small : k < 0x400) :
    readUnitAfter (0xD800 + j) (0xDC00 + k) =
      ([some (Char.ofNat (0x10000 + j * 0x400 + k))], none) := by
  have low : isLowSurrogate (0xDC00 + k) = true := by
    simp only [isLowSurrogate, Bool.and_eq_true, decide_eq_true_eq]
    omega
  rw [readUnitAfter, if_pos low, ofSurrogates, Nat.add_sub_cancel_left, Nat.add_sub_cancel_left]

/-! ## Characters -/

theorem decodeUtf16From_unitsOf (order : ByteOrder) (c : Char) (rest : List UInt8) :
    decodeUtf16From order none ((unitsOf c).flatMap order.bytes ++ rest) =
      some c :: decodeUtf16From order none rest := by
  have valid : c.toNat < 0xD800 ∨ 0xDFFF < c.toNat ∧ c.toNat < 0x110000 := toNat_cases c
  have same : Char.ofNat c.toNat = c := Char.ofNat_toNat c
  unfold unitsOf
  generalize c.toNat = n at valid same ⊢
  split
  · next small =>
    have plain : n < 0xD800 ∨ 0xDFFF < n := valid.imp_right And.left
    rw [List.flatMap_singleton, decodeUtf16From_bytes order small, readUnit_of_plain plain, same]
    rfl
  · next large =>
    have above : (n - 0x10000) / 0x400 < 0x400 := by omega
    have below : (n - 0x10000) % 0x400 < 0x400 := Nat.mod_lt _ (by decide)
    have value : 0x10000 + (n - 0x10000) / 0x400 * 0x400 + (n - 0x10000) % 0x400 = n := by omega
    rw [List.flatMap_cons, List.flatMap_singleton, List.append_assoc,
      decodeUtf16From_bytes order (by omega), readUnit_high above, List.nil_append,
      decodeUtf16From_bytes_after order _ (by omega), readUnitAfter_low below, value, same]
    rfl

/-- The bytes of a text are read as the text, in either order of the bytes of a unit. -/
theorem decodeUtf16_encodeUtf16 (order : ByteOrder) (text : List Char) :
    decodeUtf16 order (encodeUtf16 order text) = text.map some := by
  induction text with
  | nil => rfl
  | cons c text ih =>
      rw [encodeUtf16, List.flatMap_cons, List.flatMap_append, decodeUtf16,
        decodeUtf16From_unitsOf, List.map_cons, ← ih]
      rfl

end Phrasebook.Encoding
