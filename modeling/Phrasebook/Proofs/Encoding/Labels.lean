import Phrasebook.Encoding.Decode
import Phrasebook.Proofs.Text.LetterCase

/-! # Labels that are understood

Every encoding goes by its own name: in lower case the name is a label of the encoding, and of no
other. Whether bytes can be decoded is a question of the label alone.
-/

namespace Phrasebook.Encoding

open Text

/-! ## Names -/

theorem exists_labels (encoding : Encoding) : ∃ row ∈ labels, row.1 = encoding := by
  rw [← List.mem_map]
  cases encoding with
  | page page => cases page <;> decide
  | eastAsian encoding => cases encoding <;> decide
  | utf8 | utf16le | utf16be | iso2022Jp | userDefined | replacement => decide

theorem ofLabel?_plainName_of_mem : ∀ row ∈ labels, ofLabel? row.1.plainName = some row.1 := by
  simp only [ofLabel?, plainName, lowerAscii_eq_ofList, String.toList_ofList, List.map_map]
  decide +kernel

theorem ofLabel?_plainName (encoding : Encoding) :
    ofLabel? encoding.plainName = some encoding := by
  obtain ⟨row, member, rfl⟩ := exists_labels encoding
  exact ofLabel?_plainName_of_mem row member

theorem exists_row_of_ofLabel? {label : String} {encoding : Encoding}
    (known : ofLabel? label = some encoding) : ∃ row ∈ labels, lowerAscii label ∈ row.2 := by
  obtain ⟨row, found, -⟩ := Option.map_eq_some_iff.mp known
  have listed : row.2.contains (lowerAscii label) = true := by
    simpa using List.find?_some found
  exact ⟨row, List.mem_of_find?_eq_some found, List.contains_iff_mem.mp listed⟩

theorem unlisted : ∀ row ∈ labels, signedUtf8 ∉ row.2 ∧ "" ∉ row.2 := by
  decide +kernel

theorem resolve?_plainName (encoding : Encoding) :
    resolve? encoding.plainName = some encoding := by
  have known := ofLabel?_plainName encoding
  obtain ⟨row, member, listed⟩ := exists_row_of_ofLabel? known
  have other : lowerAscii encoding.plainName ≠ signedUtf8 := fun same =>
    (unlisted row member).1 (same ▸ listed)
  rw [resolve?, if_neg other, known]

theorem plainName_ne_empty (encoding : Encoding) : encoding.plainName ≠ "" := by
  intro empty
  obtain ⟨row, member, listed⟩ := exists_row_of_ofLabel? (ofLabel?_plainName encoding)
  rw [empty, lowerAscii_eq_ofList] at listed
  exact (unlisted row member).2 listed

theorem trimBoth_plainName_of_mem :
    ∀ row ∈ labels, trimBoth isWhite row.1.plainName.toList = row.1.plainName.toList := by
  simp only [plainName, lowerAscii_eq_ofList, String.toList_ofList]
  decide +kernel

theorem trimWhite_plainName (encoding : Encoding) :
    trimWhite encoding.plainName = encoding.plainName := by
  obtain ⟨row, member, rfl⟩ := exists_labels encoding
  rw [trimWhite, trimBoth_plainName_of_mem row member, String.ofList_toList]

/-! ## Labels -/

/-- The labels by which bytes can be decoded: one that is known, a blank one, or none. -/
inductive IsUsable : Option String → Prop where
  | absent : IsUsable none
  | blank {given : String} : trimWhite given = "" → IsUsable (some given)
  | known {given : String} : (resolve? (trimWhite given)).isSome → IsUsable (some given)

/-- A label stands for an encoding, with white space around it or without. -/
structure StandsFor (label : String) (encoding : Encoding) : Prop where
  filled : trimWhite label ≠ ""
  resolved : resolve? (trimWhite label) = some encoding

variable {label : String} {encoding : Encoding} {detector : Detector}

theorem standsFor_plainName (encoding : Encoding) : StandsFor encoding.plainName encoding := by
  constructor
  · rw [trimWhite_plainName]
    exact plainName_ne_empty encoding
  · rw [trimWhite_plainName, resolve?_plainName]

theorem standsFor_signedUtf8 : StandsFor signedUtf8 .utf8 := by
  have trimmed : trimWhite signedUtf8 = signedUtf8 := by decide
  have same : lowerAscii signedUtf8 = signedUtf8 := by
    rw [lowerAscii_eq_ofList]
    decide
  constructor
  · rw [trimmed]
    decide
  · rw [trimmed, resolve?, if_pos same]

/-! ## Choosing -/

theorem StandsFor.chooseBy_eq (standsFor : StandsFor label encoding) (detector : Detector)
    (bytes : List UInt8) : chooseBy detector (some label) bytes = .ok encoding := by
  have asked : ((some label).map trimWhite).filter (· != "") = some (trimWhite label) :=
    Option.filter_some_pos (bne_iff_ne.mpr standsFor.filled)
  simp only [chooseBy, asked, standsFor.resolved]

theorem chooseBy_none (detector : Detector) (bytes : List UInt8) :
    chooseBy detector none bytes = .ok (guessBy detector bytes) := rfl

theorem chooseBy_of_blank (blank : trimWhite label = "") (detector : Detector)
    (bytes : List UInt8) :
    chooseBy detector (some label) bytes = .ok (guessBy detector bytes) := by
  have asked : ((some label).map trimWhite).filter (· != "") = none := by
    rw [Option.map_some, blank]
    rfl
  simp only [chooseBy, asked]

theorem IsUsable.exists_chooseBy {label : Option String} (usable : IsUsable label)
    (detector : Detector) (bytes : List UInt8) :
    ∃ encoding, chooseBy detector label bytes = .ok encoding := by
  cases usable with
  | absent => exact ⟨_, chooseBy_none detector bytes⟩
  | blank blank => exact ⟨_, chooseBy_of_blank blank detector bytes⟩
  | @known given known =>
      by_cases blank : trimWhite given = ""
      · exact ⟨_, chooseBy_of_blank blank detector bytes⟩
      · obtain ⟨encoding, resolved⟩ := Option.isSome_iff_exists.mp known
        exact ⟨encoding, StandsFor.chooseBy_eq ⟨blank, resolved⟩ detector bytes⟩

theorem decodeBytesBy_of_choice {label : Option String} {bytes : List UInt8}
    (chosen : chooseBy detector label bytes = .ok encoding) :
    decodeBytesBy detector bytes label = .ok (encoding.decode bytes) := by
  rw [decodeBytesBy, chosen]
  rfl

end Phrasebook.Encoding
