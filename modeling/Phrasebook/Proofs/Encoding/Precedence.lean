import Phrasebook.Proofs.Document.Endings
import Phrasebook.Proofs.Encoding.Labels
import Phrasebook.Proofs.Encoding.Utf16

/-! # The byte order mark decides

Bytes that start with a byte order mark are read in the encoding of the mark. A label can only ask
for another encoding, and the decoder looks at the mark first; without a label so does the guess.
The mark is taken off once: a text that starts with the same character keeps it.
-/

namespace Phrasebook

namespace Encoding

open Text (encodeUtf8 decodeUtf8_encodeUtf8)

/-- The bytes are a text written in an encoding that has a byte order mark, behind its mark. -/
inductive Marked (text : List Char) : Encoding → List UInt8 → Prop where
  | utf8 : Marked text .utf8 (0xEF :: 0xBB :: 0xBF :: encodeUtf8 text)
  | utf16le : Marked text .utf16le (0xFF :: 0xFE :: encodeUtf16 .little text)
  | utf16be : Marked text .utf16be (0xFE :: 0xFF :: encodeUtf16 .big text)

namespace Marked

variable {text : List Char} {encoding : Encoding} {bytes : List UInt8}

theorem exists_body (marked : Marked text encoding bytes) :
    ∃ body, ofMark? bytes = some (encoding, body) ∧ encoding.readBytes body = text.map some := by
  cases marked with
  | utf8 => exact ⟨_, rfl, decodeUtf8_encodeUtf8 text⟩
  | utf16le => exact ⟨_, rfl, decodeUtf16_encodeUtf16 .little text⟩
  | utf16be => exact ⟨_, rfl, decodeUtf16_encodeUtf16 .big text⟩

theorem decode_eq (marked : Marked text encoding bytes) (asked : Encoding) :
    asked.decode bytes = ⟨String.ofList text, encoding, false⟩ := by
  obtain ⟨body, mark, read⟩ := marked.exists_body
  simp [decode, mark, read, Function.comp_def]

theorem decodeBytesBy_eq (marked : Marked text encoding bytes) (detector : Detector)
    {label : Option String} (usable : IsUsable label) :
    decodeBytesBy detector bytes label = .ok ⟨String.ofList text, encoding, false⟩ := by
  obtain ⟨asked, chosen⟩ := usable.exists_chooseBy detector bytes
  rw [decodeBytesBy_of_choice chosen, marked.decode_eq]

end Marked

end Encoding

open Encoding

theorem Session.readFile_of_read {session : Session} {disk : Disk} {path : String}
    {bytes : Disk.Bytes} (read : disk.read (session.pathOf path) = .ok bytes) :
    session.readFile disk path = .ok bytes := by
  rw [readFile, read]
  rfl

theorem Dictionary.value_ofFile {disk : Disk} {path : Disk.Path} {bytes : Disk.Bytes}
    (read : disk.read path = .ok bytes) :
    (ofFile disk path).value = ofText path.text (Encoding.utf8.decode bytes).text := by
  rw [ofFile, read]

/-- A text behind the byte order mark of its encoding is read back whole and without a fault,
    whatever usable label it is read with and whatever a detector would say. So it is translated as
    the text, and it is as a dictionary what the text is. -/
theorem mark_decides {text : String} {encoding : Encoding} {bytes : List UInt8}
    (marked : Marked text.toList encoding bytes) :
    (∀ detector label, IsUsable label →
      decodeBytesBy detector bytes label = .ok ⟨text, encoding, false⟩) ∧
    (∀ (session : Session) (disk : Disk) path asked label, IsUsable label →
      disk.read (session.pathOf path) = .ok bytes →
        ∃ answer, (session.answer disk (.file path asked label)).value = .ok answer ∧
          answer.field? "text" =
            some (.string (translateDocument session.index (asked.getD session.target) text))) ∧
    (∀ (disk : Disk) path, disk.read path = .ok bytes →
      (Dictionary.ofFile disk path).value = Dictionary.ofText path.text text) := by
  refine ⟨?decoded, ?translated, ?loaded⟩
  case decoded =>
    intro detector label usable
    rw [marked.decodeBytesBy_eq detector usable, String.ofList_toList]
  case translated =>
    intro session disk path asked label usable read
    have decoded : ((session.readFile disk path).bind fun bytes => decodeBytes bytes label) =
        .ok ⟨text, encoding, false⟩ := by
      rw [Session.readFile_of_read read, Except.bind, decodeBytes,
        marked.decodeBytesBy_eq ofShape usable, String.ofList_toList]
    exact ⟨_, Session.value_answer_file asked decoded, Session.text_fileAnswer _ _ _⟩
  case loaded =>
    intro disk path read
    rw [Dictionary.value_ofFile read, marked.decode_eq, String.ofList_toList]

/-- The text starts with the mark's character itself and needs a surrogate pair, and the label asks
    for another encoding. -/
theorem mark_decides_twice_marked :
    let text := "\uFEFF/ac 🌙"
    let bytes := 0xFE :: 0xFF :: encodeUtf16 .big text.toList
    let label := some " Latin1\t"
    let disk : Disk := { nodes := [(["macro.txt"], .file bytes)], workingDirectory := [] }
    let session : Session := { directory := ⟨"."⟩, settings := {} }
    Marked text.toList .utf16be bytes ∧ IsUsable label ∧
      decodeBytes bytes label = .ok ⟨text, .utf16be, false⟩ ∧
      (∃ answer, (session.answer disk (.file "macro.txt" none label)).value = .ok answer ∧
        answer.field? "text" = some (.string (translateDocument .unset .fr text))) ∧
      (Dictionary.ofFile disk ⟨"macro.txt"⟩).value = Dictionary.ofText "macro.txt" text := by
  intro text bytes label disk session
  have usable : IsUsable label := by
    refine .known ?_
    have trimmed : Text.trimWhite " Latin1\t" = "Latin1" := by decide
    simp only [trimmed, resolve?, ofLabel?, Text.lowerAscii_eq_ofList]
    decide +kernel
  have marked : Marked text.toList .utf16be bytes := .utf16be
  obtain ⟨decoded, translated, loaded⟩ := mark_decides marked
  exact ⟨marked, usable, decoded ofShape label usable,
    translated session disk "macro.txt" none label usable (by decide +kernel),
    loaded disk ⟨"macro.txt"⟩ (by decide +kernel)⟩

end Phrasebook
