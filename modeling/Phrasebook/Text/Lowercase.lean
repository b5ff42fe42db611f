import Phrasebook.Text.Lowercase.Table

/-! # Lower case

Full Unicode lower-casing of a text. It is not a map over characters: a capital sigma becomes `ς` at
the end of a word and `σ` elsewhere, and `İ` becomes two characters.
-/

namespace Phrasebook.Text

/-- The lower-case form of a character on its own. -/
def lowerChar (c : Char) : List Char :=
  if c = 'İ' then ['i', '\u0307']
  else
    match ShiftRun.find? capitalRuns c.toNat with
    | some code => [Char.ofNat code]
    | none => [c]

/-- Whether, reading away from a position, the first character that matters for casing is cased. -/
def meetsCased (text : List Char) : Bool :=
  match text.dropWhile caseIgnorable.contains with
  | c :: _ => cased.contains c
  | [] => false

/-- The lower-case form of a capital sigma, given what stands before it, nearest first, and after
    it. Skipping what casing ignores, it is final when a cased letter precedes it and none
    follows. -/
def lowerSigma (before after : List Char) : Char :=
  if meetsCased before && !meetsCased after then 'ς' else 'σ'

/-- Lower case of the rest of a text; `before` is what was read, nearest first. -/
def lowerFrom (before : List Char) : List Char → List Char
  | [] => []
  | c :: after =>
      (if c = 'Σ' then [lowerSigma before after] else lowerChar c) ++ lowerFrom (c :: before) after

def lower (text : List Char) : List Char :=
  lowerFrom [] text

def lowercase (text : String) : String :=
  String.ofList (lower text.toList)

/-- Lower case in ASCII alone, for words of fixed vocabularies. -/
def lowerAscii (text : String) : String :=
  text.map Char.toLower

theorem lowerChar_ne_nil (c : Char) : lowerChar c ≠ [] := by
  unfold lowerChar
  split
  · simp
  · split <;> simp

/-- Every character has a lower-case form, so only the empty text is empty in lower case. -/
theorem lowercase_eq_empty_iff {text : String} : lowercase text = "" ↔ text = "" := by
  constructor
  · intro empty
    rw [← String.toList_eq_nil_iff] at empty ⊢
    rw [lowercase, String.toList_ofList, lower] at empty
    cases chars : text.toList with
    | nil => rfl
    | cons c after =>
        rw [chars, lowerFrom, List.append_eq_nil_iff] at empty
        split at empty
        · cases empty.1
        · exact absurd empty.1 (lowerChar_ne_nil c)
  · rintro rfl
    rfl

end Phrasebook.Text
