import Phrasebook.Proofs.Text.Lowercase

/-! # Letters in another case

Texts that differ in the case of ASCII letters have the same lower case. That takes more than a look
at the letters themselves: whether a sigma is final depends on the letters around it, so the case of
one letter must not change whether another one sees it as a letter. Nor does the case of a letter
change where a text can be trimmed.
-/

namespace Phrasebook.Text

/-! ## Characters -/

/-- A character is in ASCII lower case already, or it is a capital with its small letter. -/
theorem toLower_cases (c : Char) :
    c.toLower = c ∨ ∃ n : Fin 26, c = Char.ofNat (65 + n) ∧ c.toLower = Char.ofNat (97 + n) := by
  by_cases capital : 65 ≤ c.toNat ∧ c.toNat ≤ 90
  · have letter : c = Char.ofNat (65 + (c.toNat - 65)) := by
      rw [Nat.add_sub_cancel' capital.1, Char.ofNat_toNat]
    refine .inr ⟨⟨c.toNat - 65, by omega⟩, letter, ?_⟩
    have small : ∀ n : Fin 26, (Char.ofNat (65 + n)).toLower = Char.ofNat (97 + n) := by decide
    have lowered := small ⟨c.toNat - 65, by omega⟩
    rwa [← letter] at lowered
  · refine .inl ?_
    unfold Char.toLower
    exact dif_neg capital

/-- What holds alike of every capital and its small letter does not depend on ASCII case. -/
theorem toLower_congr {α : Type} (f : Char → α)
    (alike : ∀ n : Fin 26, f (Char.ofNat (97 + n)) = f (Char.ofNat (65 + n))) (c : Char) :
    f c.toLower = f c := by
  rcases toLower_cases c with same | ⟨n, capital, small⟩
  · rw [same]
  · rw [small, capital]
    exact alike n

theorem cased_toLower (c : Char) : cased.contains c.toLower = cased.contains c :=
  toLower_congr cased.contains (by decide) c

theorem caseIgnorable_toLower (c : Char) :
    caseIgnorable.contains c.toLower = caseIgnorable.contains c :=
  toLower_congr caseIgnorable.contains (by decide) c

theorem lowerChar_toLower (c : Char) : lowerChar c.toLower = lowerChar c :=
  toLower_congr lowerChar (by decide) c

theorem isSpace_toLower (c : Char) : isSpace c.toLower = isSpace c :=
  toLower_congr isSpace (by decide) c

/-- A character that is no ASCII letter is not what a letter becomes in another case. -/
theorem toLower_eq_iff {mark : Char}
    (plain : ∀ n : Fin 26, Char.ofNat (97 + n) ≠ mark ∧ Char.ofNat (65 + n) ≠ mark) (c : Char) :
    c.toLower = mark ↔ c = mark := by
  rcases toLower_cases c with same | ⟨n, capital, small⟩
  · rw [same]
  · rw [small, capital]
    exact iff_of_false (plain n).1 (plain n).2

theorem toLower_eq_sigma_iff (c : Char) : c.toLower = 'Σ' ↔ c = 'Σ' :=
  toLower_eq_iff (by decide) c

/-! ## Texts -/

theorem lowerAscii_eq_ofList (text : String) :
    lowerAscii text = String.ofList (text.toList.map Char.toLower) := by
  rw [← String.toList_inj, lowerAscii, String.toList_map, String.toList_ofList]

theorem lowerAscii_eq_iff {one other : String} :
    lowerAscii one = lowerAscii other ↔
      one.toList.map Char.toLower = other.toList.map Char.toLower := by
  rw [lowerAscii_eq_ofList, lowerAscii_eq_ofList, String.ofList_inj]

theorem meetsCased_map_toLower (text : List Char) :
    meetsCased (text.map Char.toLower) = meetsCased text := by
  induction text with
  | nil => rfl
  | cons c rest ih =>
      rw [List.map_cons, meetsCased_cons, meetsCased_cons, caseIgnorable_toLower, cased_toLower, ih]

theorem lowerFrom_map_toLower (before text : List Char) :
    lowerFrom (before.map Char.toLower) (text.map Char.toLower) = lowerFrom before text := by
  induction text generalizing before with
  | nil => rfl
  | cons c rest ih =>
      have later := ih (c :: before)
      rw [List.map_cons] at later
      simp only [List.map_cons, lowerFrom, lowerSigma, meetsCased_map_toLower, lowerChar_toLower,
        toLower_eq_sigma_iff, later]

theorem lowercase_lowerAscii (text : String) : lowercase (lowerAscii text) = lowercase text := by
  rw [lowercase, lowercase, lowerAscii, String.toList_map]
  exact congrArg String.ofList (lowerFrom_map_toLower [] text.toList)

/-- Texts that differ in the case of ASCII letters alone have one lower case. -/
theorem lowercase_congr {one other : String} (alike : lowerAscii one = lowerAscii other) :
    lowercase one = lowercase other := by
  rw [← lowercase_lowerAscii, alike, lowercase_lowerAscii]

theorem trimmed_map_toLower {text : List Char} :
    Trimmed isSpace (text.map Char.toLower) ↔ Trimmed isSpace text := by
  have edge (end_ : Option Char) :
      (∀ c ∈ end_.map Char.toLower, isSpace c = false) ↔ ∀ c ∈ end_, isSpace c = false := by
    cases end_ with
    | none => simp
    | some c => simp [isSpace_toLower]
  constructor
  · rintro ⟨starts, ends⟩
    rw [StartsOutside, List.head?_map] at starts
    rw [EndsOutside, List.getLast?_map] at ends
    exact ⟨(edge _).mp starts, (edge _).mp ends⟩
  · rintro ⟨starts, ends⟩
    refine ⟨?_, ?_⟩
    · rw [StartsOutside, List.head?_map]
      exact (edge _).mpr starts
    · rw [EndsOutside, List.getLast?_map]
      exact (edge _).mpr ends

end Phrasebook.Text
