import Phrasebook.Encoding.Decode
import Phrasebook.Proofs.Text.Utf8

/-! # Byte order marks

The bytes of a text start with a byte order mark only if the text starts with the character that
the mark of UTF-8 writes. Any other text in UTF-8 is decoded to itself.
-/

namespace Phrasebook.Encoding

open Text (decodeUtf8 encodeUtf8 decodeUtf8_encodeUtf8)

/-- The character that is the byte order mark in UTF-8. -/
def markChar : Char := '\uFEFF'

theorem decodeUtf8_mark (rest : List UInt8) :
    decodeUtf8 (0xEF :: 0xBB :: 0xBF :: rest) = some markChar :: decodeUtf8 rest := rfl

theorem ofMark?_encodeUtf8 {text : List Char} (unmarked : text.head? ≠ some markChar) :
    ofMark? (encodeUtf8 text) = none := by
  have chars := decodeUtf8_encodeUtf8 text
  unfold ofMark?
  split
  · next rest bytes =>
    rw [bytes, decodeUtf8_mark] at chars
    cases text with
    | nil => cases chars
    | cons c text =>
        have first : some markChar = some c := (List.cons.inj chars).1
        exact absurd first.symm unmarked
  -- The other two marks start with bytes that no text has.
  · next rest bytes =>
    rw [bytes] at chars
    have malformed : none ∈ text.map some := chars ▸ List.mem_cons_self
    simp at malformed
  · next rest bytes =>
    rw [bytes] at chars
    have malformed : none ∈ text.map some := chars ▸ List.mem_cons_self
    simp at malformed
  · rfl

theorem decode_encodeUtf8 {text : List Char} (unmarked : text.head? ≠ some markChar) :
    Encoding.utf8.decode (encodeUtf8 text) = ⟨String.ofList text, .utf8, false⟩ := by
  simp [decode, ofMark?_encodeUtf8 unmarked, readBytes, decodeUtf8_encodeUtf8, Function.comp_def]

theorem decode_marked (text : List Char) :
    Encoding.utf8.decode (0xEF :: 0xBB :: 0xBF :: encodeUtf8 text) =
      ⟨String.ofList text, .utf8, false⟩ := by
  simp [decode, ofMark?, readBytes, decodeUtf8_encodeUtf8, Function.comp_def]

end Phrasebook.Encoding
