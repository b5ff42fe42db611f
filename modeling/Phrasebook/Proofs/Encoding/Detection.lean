import Phrasebook.Encoding.Detect
import Phrasebook.Proofs.Encoding.Labels

/-! # Decoding what was detected

A report names encodings by labels. The best of them asks for the encoding that is guessed without a
label; only the byte order mark of UTF-8 is reported under a label of its own, and it decides for
itself. So decoding by the report is decoding by the guess, whatever guesses.
-/

namespace Phrasebook.Encoding

variable {detector : Detector} {bytes : List UInt8} {candidate : Candidate}

theorem guessBy_of_mark {encoding : Encoding} {rest : List UInt8}
    (mark : ofMark? bytes = some (encoding, rest)) : guessBy detector bytes = encoding := by
  rw [guessBy, mark]

/-! ## Reports -/

/-- A report on bytes is either the one on the mark of UTF-8, or one on the guessed encoding. -/
theorem detectBy_cases (detector : Detector) (bytes : List UInt8) :
    (guessBy detector bytes = .utf8 ∧ detectBy detector bytes = signedReport) ∨
      detectBy detector bytes = (guessBy detector bytes).reportAs bytes := by
  unfold detectBy
  split
  · next mark => exact .inl ⟨guessBy_of_mark mark, rfl⟩
  · exact .inr rfl

theorem standsFor_best (detector : Detector) (bytes : List UInt8) :
    StandsFor (detectBy detector bytes).best (guessBy detector bytes) := by
  rcases detectBy_cases detector bytes with ⟨guessed, report⟩ | report
  · rw [report, guessed]
    exact standsFor_signedUtf8
  · rw [report]
    exact standsFor_plainName _

theorem plainName_utf8 : utf8.plainName = "utf-8" := by
  rw [plainName, Text.lowerAscii_eq_ofList]
  decide

theorem plainName_iso8859p15 : (page .iso8859p15).plainName = "iso-8859-15" := by
  rw [plainName, Text.lowerAscii_eq_ofList]
  decide

theorem exists_standsFor_of_rival {encoding : Encoding} {label : String} {less : Nat}
    (rival : (label, less) ∈ encoding.rivals) : ∃ other, StandsFor label other := by
  unfold rivals at rival
  split at rival
  · simp only [List.mem_cons, Prod.mk.injEq, List.not_mem_nil, or_false] at rival
    rcases rival with ⟨rfl, -⟩ | ⟨rfl, -⟩
    · exact ⟨.page .iso8859p15, plainName_iso8859p15 ▸ standsFor_plainName _⟩
    · exact ⟨.utf8, plainName_utf8 ▸ standsFor_plainName _⟩
  · simp only [List.mem_singleton, Prod.mk.injEq] at rival
    exact ⟨.utf8, rival.1 ▸ standsFor_signedUtf8⟩
  · exact absurd rival List.not_mem_nil

theorem exists_standsFor_of_candidate (member : candidate ∈ (detectBy detector bytes).candidates) :
    ∃ encoding, StandsFor candidate.label encoding := by
  rcases detectBy_cases detector bytes with ⟨-, report⟩ | report
  · simp only [report, signedReport, List.mem_cons, List.not_mem_nil, or_false] at member
    rcases member with rfl | rfl
    · exact ⟨.utf8, standsFor_signedUtf8⟩
    · exact ⟨.utf8, standsFor_plainName .utf8⟩
  · simp only [report, reportAs, List.mem_cons, List.mem_map] at member
    rcases member with rfl | ⟨⟨label, less⟩, rival, rfl⟩
    · exact ⟨_, standsFor_plainName _⟩
    · exact exists_standsFor_of_rival rival

/-! ## Decoding by a report -/

theorem StandsFor.decodeBytesBy_eq {label : String} {encoding : Encoding}
    (standsFor : StandsFor label encoding) (detector : Detector) (bytes : List UInt8) :
    decodeBytesBy detector bytes (some label) = .ok (encoding.decode bytes) :=
  decodeBytesBy_of_choice (standsFor.chooseBy_eq detector bytes)

/-- Bytes are decoded by the best label of their report as they are without a label, and every
    label of a report is one that any bytes can be decoded by. -/
theorem detection_decodes (detector : Detector) (bytes : List UInt8) :
    (∃ decoded,
      decodeBytesBy detector bytes (some (detectBy detector bytes).best) = .ok decoded ∧
        decodeBytesBy detector bytes none = .ok decoded) ∧
    ∀ candidate ∈ (detectBy detector bytes).candidates, ∀ input,
      ∃ decoded, decodeBytesBy detector input (some candidate.label) = .ok decoded := by
  constructor
  · exact ⟨_, (standsFor_best detector bytes).decodeBytesBy_eq detector bytes,
      decodeBytesBy_of_choice (chooseBy_none detector bytes)⟩
  · intro candidate member input
    obtain ⟨encoding, standsFor⟩ := exists_standsFor_of_candidate member
    exact ⟨_, standsFor.decodeBytesBy_eq detector input⟩

end Phrasebook.Encoding
