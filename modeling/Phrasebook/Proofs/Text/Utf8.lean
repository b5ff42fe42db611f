import Mathlib.Data.Char
import Phrasebook.Text.Utf8

/-! # UTF-8 read back

The reader takes from the front of a text's bytes exactly its first character. And where it marks
nothing as malformed, the bytes it took are those of the character it gives: a byte sequence is
read as a text just when it is the sequence of that text.
-/

namespace Phrasebook.Text

/-! ## Lead bytes

The range of the byte after the lead rules out what has a shorter form, surrogates and numbers that
no character has. -/

theorem leadOf_one {n : Nat} (small : n < 0x80) : leadOf n = .char (Char.ofNat n) := by
  simp [leadOf, small]

theorem leadOf_two {k : Nat} (low : 2 ≤ k) (high : k < 32) :
    leadOf (k + 0xC0) = .begins ⟨1, 0x80, 0xBF, k⟩ := by
  have all : ∀ k : Fin 32, 2 ≤ k.val → leadOf (k + 0xC0) = .begins ⟨1, 0x80, 0xBF, k⟩ := by
    decide
  exact all ⟨k, high⟩ low

/-- The range of the byte after a lead byte that announces two. -/
def secondOfThree (k : Nat) : Nat × Nat :=
  (if k = 0 then 0xA0 else 0x80, if k = 13 then 0x9F else 0xBF)

theorem leadOf_three {k : Nat} (high : k < 16) :
    leadOf (k + 0xE0) = .begins ⟨2, (secondOfThree k).1, (secondOfThree k).2, k⟩ := by
  have all : ∀ k : Fin 16,
      leadOf (k + 0xE0) = .begins ⟨2, (secondOfThree k).1, (secondOfThree k).2, k⟩ := by
    decide
  exact all ⟨k, high⟩

/-- The range of the byte after a lead byte that announces three. -/
def secondOfFour (k : Nat) : Nat × Nat :=
  (if k = 0 then 0x90 else 0x80, if k = 4 then 0x8F else 0xBF)

theorem leadOf_four {k : Nat} (high : k < 5) :
    leadOf (k + 0xF0) = .begins ⟨3, (secondOfFour k).1, (secondOfFour k).2, k⟩ := by
  have all : ∀ k : Fin 5,
      leadOf (k + 0xF0) = .begins ⟨3, (secondOfFour k).1, (secondOfFour k).2, k⟩ := by
    decide
  exact all ⟨k, high⟩

/-- All that a byte can be at the start of a sequence. -/
theorem leadOf_cases (n : Nat) :
    n < 0x80 ∨ (∃ k, 2 ≤ k ∧ k < 32 ∧ n = k + 0xC0) ∨ (∃ k, k < 16 ∧ n = k + 0xE0) ∨
      (∃ k, k < 5 ∧ n = k + 0xF0) ∨ leadOf n = .malformed := by
  by_cases one : n < 0x80
  · exact .inl one
  by_cases two : 0xC2 ≤ n ∧ n < 0xE0
  · exact .inr (.inl ⟨n - 0xC0, by omega, by omega, by omega⟩)
  by_cases three : 0xE0 ≤ n ∧ n < 0xF0
  · exact .inr (.inr (.inl ⟨n - 0xE0, by omega, by omega⟩))
  by_cases four : 0xF0 ≤ n ∧ n < 0xF5
  · exact .inr (.inr (.inr (.inl ⟨n - 0xF0, by omega, by omega⟩)))
  refine .inr (.inr (.inr (.inr ?_)))
  unfold leadOf
  iterate 8 rw [if_neg (by omega)]

/-! ## Steps of the reader -/

theorem decodeUtf8From_char {byte : UInt8} {c : Char} {rest : List UInt8}
    (lead : leadOf byte.toNat = .char c) :
    decodeUtf8From none (byte :: rest) = some c :: decodeUtf8From none rest := by
  simp [decodeUtf8From, lead]

theorem decodeUtf8From_begins {byte : UInt8} {pending : Pending} {rest : List UInt8}
    (lead : leadOf byte.toNat = .begins pending) :
    decodeUtf8From none (byte :: rest) = decodeUtf8From (some pending) rest := by
  simp [decodeUtf8From, lead]

theorem decodeUtf8From_last {byte : UInt8} {low high bits : Nat} {rest : List UInt8}
    (fits : low ≤ byte.toNat ∧ byte.toNat ≤ high) :
    decodeUtf8From (some ⟨1, low, high, bits⟩) (byte :: rest) =
      some (Char.ofNat (bits * 64 + (byte.toNat - 0x80))) :: decodeUtf8From none rest := by
  simp [decodeUtf8From, fits]

theorem decodeUtf8From_more {byte : UInt8} {lacking low high bits : Nat} {rest : List UInt8}
    (fits : low ≤ byte.toNat ∧ byte.toNat ≤ high) (several : 1 < lacking) :
    decodeUtf8From (some ⟨lacking, low, high, bits⟩) (byte :: rest) =
      decodeUtf8From (some ⟨lacking - 1, 0x80, 0xBF, bits * 64 + (byte.toNat - 0x80)⟩) rest := by
  simp [decodeUtf8From, fits, Nat.not_le.mpr several]

/-- A sequence that ends well goes on with a byte of its range. -/
theorem exists_of_wellFormed {pending : Pending} {bytes : List UInt8}
    (wellFormed : ∀ c ∈ decodeUtf8From (some pending) bytes, c.isSome) :
    ∃ byte rest, bytes = byte :: rest ∧ pending.low ≤ byte.toNat ∧ byte.toNat ≤ pending.high := by
  cases bytes with
  | nil => simp [decodeUtf8From] at wellFormed
  | cons byte rest =>
      by_cases fits : pending.low ≤ byte.toNat ∧ byte.toNat ≤ pending.high
      · exact ⟨byte, rest, rfl, fits⟩
      · have marked : none ∈ decodeUtf8From (some pending) (byte :: rest) := by
          simp only [decodeUtf8From, fits, if_false]
          split <;> exact List.mem_cons_self
        exact absurd (wellFormed none marked) (by simp)

/-! ## A character's bytes are read as it -/

theorem toNat_byte {n : Nat} (small : n < 0x100) : (UInt8.ofNat n).toNat = n :=
  UInt8.toNat_ofNat_of_lt' small

/-- A number that a character has. -/
theorem toNat_cases (c : Char) :
    c.val.toNat < 0xD800 ∨ 0xDFFF < c.val.toNat ∧ c.val.toNat < 0x110000 :=
  c.valid

theorem decodeUtf8From_encodeChar (c : Char) (rest : List UInt8) :
    decodeUtf8From none (String.utf8EncodeChar c ++ rest) =
      some c :: decodeUtf8From none rest := by
  have valid := toNat_cases c
  have same : Char.ofNat c.val.toNat = c := Char.ofNat_toNat c
  -- One case for each length, from the lead byte on.
  unfold String.utf8EncodeChar
  generalize c.val.toNat = v at *
  dsimp only
  split
  · have byte := toNat_byte (n := v) (by omega)
    rw [List.singleton_append, decodeUtf8From_char (leadOf_one (by omega)), byte, same]
  split
  · have first := toNat_byte (n := v / 64 % 32 + 192) (by omega)
    have second := toNat_byte (n := v % 64 + 128) (by omega)
    have value : v / 64 % 32 * 64 + (v % 64 + 128 - 0x80) = v := by omega
    rw [List.cons_append, decodeUtf8From_begins (first ▸ leadOf_two (by omega) (by omega)),
      List.singleton_append, decodeUtf8From_last (by omega), second, value, same]
  split
  · have first := toNat_byte (n := v / 4096 % 16 + 224) (by omega)
    have second := toNat_byte (n := v / 64 % 64 + 128) (by omega)
    have third := toNat_byte (n := v % 64 + 128) (by omega)
    have value : (v / 4096 % 16 * 64 + (v / 64 % 64 + 128 - 0x80)) * 64 + (v % 64 + 128 - 0x80) =
        v := by omega
    have range : (secondOfThree (v / 4096 % 16)).1 ≤ v / 64 % 64 + 128 ∧
        v / 64 % 64 + 128 ≤ (secondOfThree (v / 4096 % 16)).2 := by
      simp only [secondOfThree]
      constructor <;> split <;> omega
    rw [List.cons_append, decodeUtf8From_begins (first ▸ leadOf_three (by omega)),
      List.cons_append, decodeUtf8From_more (second.symm ▸ range) (by decide),
      List.singleton_append, decodeUtf8From_last (by omega), second, third, value, same]
  · have first := toNat_byte (n := v / 262144 % 8 + 240) (by omega)
    have second := toNat_byte (n := v / 4096 % 64 + 128) (by omega)
    have third := toNat_byte (n := v / 64 % 64 + 128) (by omega)
    have fourth := toNat_byte (n := v % 64 + 128) (by omega)
    have value : ((v / 262144 % 8 * 64 + (v / 4096 % 64 + 128 - 0x80)) * 64 +
        (v / 64 % 64 + 128 - 0x80)) * 64 + (v % 64 + 128 - 0x80) = v := by omega
    have range : (secondOfFour (v / 262144 % 8)).1 ≤ v / 4096 % 64 + 128 ∧
        v / 4096 % 64 + 128 ≤ (secondOfFour (v / 262144 % 8)).2 := by
      simp only [secondOfFour]
      constructor <;> split <;> omega
    rw [List.cons_append, decodeUtf8From_begins (first ▸ leadOf_four (by omega)),
      List.cons_append, decodeUtf8From_more (second.symm ▸ range) (by decide),
      List.cons_append, decodeUtf8From_more (by omega) (by decide),
      List.singleton_append, decodeUtf8From_last (by omega), second, third, fourth, value, same]

theorem decodeUtf8_encodeUtf8 (text : List Char) : decodeUtf8 (encodeUtf8 text) = text.map some := by
  induction text with
  | nil => rfl
  | cons c text ih =>
      rw [decodeUtf8, encodeUtf8, List.flatMap_cons, decodeUtf8From_encodeChar, List.map_cons, ← ih]
      rfl

/-- The bytes of a text are read as the text. -/
theorem decodeUtf8?_encodeUtf8 (text : List Char) :
    decodeUtf8? (encodeUtf8 text) = some (String.ofList text) := by
  simp [decodeUtf8?, decodeUtf8_encodeUtf8, List.filterMap_map]

/-! ## What is read well is the bytes of a character -/

theorem val_ofNat {n : Nat} (valid : n < 0xD800 ∨ 0xDFFF < n ∧ n < 0x110000) :
    (Char.ofNat n).val.toNat = n := by
  have valid : n.isValidChar := valid
  rw [Char.ofNat, dif_pos valid]
  rfl

theorem eq_byte (byte : UInt8) {n : Nat} (same : byte.toNat = n) : byte = UInt8.ofNat n := by
  rw [← same, UInt8.ofNat_toNat]

/-- The bytes at the front, if nothing is marked as malformed, are those of some character. -/
theorem exists_encodeChar {byte : UInt8} {bytes : List UInt8}
    (wellFormed : ∀ c ∈ decodeUtf8From none (byte :: bytes), c.isSome) :
    ∃ c rest, byte :: bytes = String.utf8EncodeChar c ++ rest := by
  rcases leadOf_cases byte.toNat with one | ⟨k, low, high, lead⟩ | ⟨k, high, lead⟩ |
    ⟨k, high, lead⟩ | malformed
  · refine ⟨Char.ofNat byte.toNat, bytes, ?_⟩
    rw [String.utf8EncodeChar, val_ofNat (by omega), if_pos (by omega), UInt8.ofNat_toNat]
    rfl
  · rw [decodeUtf8From_begins (lead ▸ leadOf_two low high)] at wellFormed
    obtain ⟨second, bytes, rfl, range⟩ := exists_of_wellFormed wellFormed
    dsimp only at range
    refine ⟨Char.ofNat (k * 64 + (second.toNat - 0x80)), bytes, ?_⟩
    rw [String.utf8EncodeChar, val_ofNat (by omega), if_neg (by omega), if_pos (by omega),
      ← eq_byte byte (by omega), ← eq_byte second (by omega)]
    rfl
  · rw [decodeUtf8From_begins (lead ▸ leadOf_three high)] at wellFormed
    obtain ⟨second, bytes, rfl, range⟩ := exists_of_wellFormed wellFormed
    dsimp only at range
    rw [decodeUtf8From_more range (by decide)] at wellFormed
    obtain ⟨third, bytes, rfl, rangeToo⟩ := exists_of_wellFormed wellFormed
    dsimp only at rangeToo
    have least : (if k = 0 then 0xA0 else 0x80) ≤ second.toNat := range.1
    have most : second.toNat ≤ (if k = 13 then 0x9F else 0xBF) := range.2
    have bounds : 0x80 ≤ second.toNat ∧ second.toNat < 0xC0 ∧ (k = 0 → 0xA0 ≤ second.toNat) ∧
        (k = 13 → second.toNat < 0xA0) := by
      split at least <;> split at most <;> omega
    refine ⟨Char.ofNat ((k * 64 + (second.toNat - 0x80)) * 64 + (third.toNat - 0x80)), bytes, ?_⟩
    rw [String.utf8EncodeChar, val_ofNat (by omega), if_neg (by omega), if_neg (by omega),
      if_pos (by omega), ← eq_byte byte (by omega), ← eq_byte second (by omega),
      ← eq_byte third (by omega)]
    rfl
  · rw [decodeUtf8From_begins (lead ▸ leadOf_four high)] at wellFormed
    obtain ⟨second, bytes, rfl, range⟩ := exists_of_wellFormed wellFormed
    dsimp only at range
    rw [decodeUtf8From_more range (by decide)] at wellFormed
    obtain ⟨third, bytes, rfl, rangeToo⟩ := exists_of_wellFormed wellFormed
    dsimp only at rangeToo
    rw [decodeUtf8From_more rangeToo (by decide)] at wellFormed
    obtain ⟨fourth, bytes, rfl, rangeThree⟩ := exists_of_wellFormed wellFormed
    dsimp only at rangeThree
    have least : (if k = 0 then 0x90 else 0x80) ≤ second.toNat := range.1
    have most : second.toNat ≤ (if k = 4 then 0x8F else 0xBF) := range.2
    have bounds : 0x80 ≤ second.toNat ∧ second.toNat < 0xC0 ∧ (k = 0 → 0x90 ≤ second.toNat) ∧
        (k = 4 → second.toNat < 0x90) := by
      split at least <;> split at most <;> omega
    refine ⟨Char.ofNat (((k * 64 + (second.toNat - 0x80)) * 64 + (third.toNat - 0x80)) * 64 +
      (fourth.toNat - 0x80)), bytes, ?_⟩
    rw [String.utf8EncodeChar, val_ofNat (by omega), if_neg (by omega), if_neg (by omega),
      if_neg (by omega), ← eq_byte byte (by omega),
      ← eq_byte second (by omega), ← eq_byte third (by omega),
      ← eq_byte fourth (by omega)]
    rfl
  · have marked : none ∈ decodeUtf8From none (byte :: bytes) := by
      simp [decodeUtf8From, malformed]
    exact absurd (wellFormed none marked) (by simp)

theorem exists_encodeUtf8 {bytes : List UInt8} (wellFormed : ∀ c ∈ decodeUtf8 bytes, c.isSome) :
    ∃ text, bytes = encodeUtf8 text := by
  -- Each step takes a character off the front, so the rest is shorter.
  induction count : bytes.length using Nat.strong_induction_on generalizing bytes with
  | h n ih =>
      cases bytes with
      | nil => exact ⟨[], rfl⟩
      | cons byte bytes =>
          obtain ⟨c, rest, split⟩ := exists_encodeChar wellFormed
          rw [split] at wellFormed count ⊢
          rw [decodeUtf8, decodeUtf8From_encodeChar] at wellFormed
          have shorter : rest.length < n := by
            have filled := List.length_pos_iff.mpr (String.utf8EncodeChar_ne_nil (c := c))
            rw [List.length_append] at count
            omega
          obtain ⟨text, rfl⟩ := ih rest.length shorter (List.forall_mem_cons.mp wellFormed).2 rfl
          exact ⟨c :: text, rfl⟩

/-- A byte sequence is read as a text just when it is the text's. -/
theorem decodeUtf8?_eq_some_iff {bytes : List UInt8} {text : String} :
    decodeUtf8? bytes = some text ↔ bytes = encodeUtf8 text.toList := by
  constructor
  · intro read
    simp only [decodeUtf8?] at read
    split at read
    case isTrue wellFormed =>
      obtain ⟨chars, rfl⟩ := exists_encodeUtf8 (List.all_eq_true.mp wellFormed)
      have same : String.ofList chars = text := by
        simpa [decodeUtf8_encodeUtf8, List.filterMap_map] using read
      rw [← same, String.toList_ofList]
    case isFalse => cases read
  · rintro rfl
    rw [decodeUtf8?_encodeUtf8, String.ofList_toList]

end Phrasebook.Text
