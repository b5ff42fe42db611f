import Phrasebook.Proofs.Json.Budget
import Phrasebook.Proofs.Json.Extension
import Phrasebook.Proofs.Json.Rereading

/-! # A text within another

What a text alone is read as, it is read as where it stands for a part of another text. There it may
be deeper than the reader goes, and only then the two differ.
-/

namespace Phrasebook.Json

theorem endOfText_eq_ok_iff (cursor : Cursor) :
    endOfText cursor = .ok () ↔ ∀ c ∈ cursor.rest, isBlank c = true := by
  rw [← List.dropWhile_eq_nil_iff]
  unfold endOfText
  have shape : cursor.skipBlanks.rest = cursor.rest.dropWhile isBlank := rfl
  dsimp only
  split
  · next ended => exact iff_of_true rfl (shape ▸ ended)
  · next c rest goes => exact iff_of_false (by simp) (by simp [← shape, goes])

theorem reason_of_endOfText {cursor : Cursor} {fault : Fault}
    (goesOn : endOfText cursor = .error fault) : fault.reason = .trailingCharacters := by
  unfold endOfText at goesOn
  dsimp only at goesOn
  split at goesOn
  · cases goesOn
  · cases goesOn
    rfl

/-- A text that is read holds a value, and behind it blanks. -/
theorem value_of_parse {text : String} {read : Json} (parsed : parse text = .ok read) :
    ∃ after blanks, (∀ c ∈ blanks, isBlank c = true) ∧
      value (stepsFor text.toList) depthLimit ⟨0, text.toList⟩ = .ok (read, ⟨after, blanks⟩) := by
  unfold parse readChars Cursor.start at parsed
  cases whole : value (stepsFor text.toList) depthLimit ⟨0, text.toList⟩ with
  | error fault => simp [whole, bind, Except.bind, Except.mapError] at parsed
  | ok result =>
      obtain ⟨readToo, after, blanks⟩ := result
      cases ended : endOfText ⟨after, blanks⟩ with
      | error fault => simp [whole, ended, bind, Except.bind, Except.mapError] at parsed
      | ok _ =>
          simp only [whole, ended, bind, Except.bind, Except.mapError, Except.ok.injEq] at parsed
          obtain rfl := parsed
          exact ⟨after, blanks, (endOfText_eq_ok_iff _).mp ended, rfl⟩

/-- A text that is refused is refused within its value, unless something stands behind it. -/
theorem value_of_parse_error {text : String} {error : Error} (refused : parse text = .error error)
    (ended : error.reason ≠ .trailingCharacters) :
    ∃ fault, value (stepsFor text.toList) depthLimit ⟨0, text.toList⟩ = .error fault ∧
      fault.reason = error.reason := by
  unfold parse readChars Cursor.start at refused
  cases whole : value (stepsFor text.toList) depthLimit ⟨0, text.toList⟩ with
  | error fault =>
      simp only [whole, bind, Except.bind, Except.mapError, Except.error.injEq] at refused
      exact ⟨fault, rfl, refused ▸ rfl⟩
  | ok result =>
      obtain ⟨read, next⟩ := result
      cases goesOn : endOfText next with
      | ok _ => simp [whole, goesOn, bind, Except.bind, Except.mapError] at refused
      | error fault =>
          simp only [whole, goesOn, bind, Except.bind, Except.mapError,
            Except.error.injEq] at refused
          exact absurd (refused ▸ reason_of_endOfText goesOn) ended

theorem parse_of_value {text : String} {read : Json} {after : Nat}
    (whole : value (stepsFor text.toList) depthLimit ⟨0, text.toList⟩ = .ok (read, ⟨after, []⟩)) :
    parse text = .ok read := by
  simp only [parse, readChars, Cursor.start, whole, bind, Except.bind, endOfText]
  rfl

theorem parse_of_value_error {text : String} {fault : Fault}
    (whole : value (stepsFor text.toList) depthLimit ⟨0, text.toList⟩ = .error fault) :
    parse text = .error (fault.located text.toList) := by
  simp only [parse, readChars, Cursor.start, whole, bind, Except.bind]
  rfl

/-- A reader that may go less deep finds the same, or that it is too deep. -/
theorem value_shallower {steps depth : Nat} (cursor : Cursor)
    (enough : 2 * cursor.rest.length + 1 ≤ steps) (levels : depth ≤ depthLimit) :
    value steps depth cursor = value steps depthLimit cursor ∨
      ∃ place, value steps depth cursor = .error ⟨.tooDeep, place⟩ :=
  ((sufficesWithin steps).ofValue steps cursor levels enough enough).eq_or_deep

section

variable {text : String} {more : List Char} {steps depth : Nat}
  (ends : Text.StartsOutside continuesNumber more)
  (enough : 2 * (text.toList.length + more.length) + 1 ≤ steps) (levels : depth ≤ depthLimit)
  (index : Nat)
include ends enough levels

/-- What a text is read as, it is read as within another, unless it is too deep there. -/
theorem value_within {read : Json} (parsed : parse text = .ok read) :
    (∃ place, value steps depth ⟨index, text.toList ++ more⟩ = .error ⟨.tooDeep, place⟩) ∨
      ∃ after blanks, (∀ c ∈ blanks, isBlank c = true) ∧
        value steps depth ⟨index, text.toList ++ more⟩ = .ok (read, ⟨after, blanks ++ more⟩) := by
  obtain ⟨after, blanks, blank, alone⟩ := value_of_parse parsed
  have sameSteps : value (stepsFor text.toList) depthLimit ⟨0, text.toList⟩ =
      value steps depthLimit ⟨0, text.toList⟩ := by
    have alike := (sufficesWithin (stepsFor text.toList)).ofValue steps ⟨0, text.toList⟩
      (Nat.le_refl depthLimit) (Nat.le_succ _) (by dsimp only; omega)
    rcases alike.eq_or_deep with same | ⟨place, deep⟩
    · exact same
    · cases alone.symm.trans deep
  rw [sameSteps] at alone
  have extended := (extendsWithin ends steps).value depthLimit 0 index text.toList
  rw [alone] at extended
  obtain ⟨⟨_, afterToo, _⟩, within, rfl, rfl⟩ := extended.of_ok
  have reached : 2 * (text.toList ++ more).length + 1 ≤ steps := by
    rwa [List.length_append]
  rcases value_shallower ⟨index, text.toList ++ more⟩ reached levels with same | deep
  · exact .inr ⟨afterToo, blanks, blank, same.trans within⟩
  · exact .inl deep

/-- A text that is refused alone, and not for want of more text, is refused within another. -/
theorem refused_within {error : Error} (refused : parse text = .error error)
    (finished : error.reason.isUnfinished = false) (ended : error.reason ≠ .trailingCharacters) :
    ∃ fault, value steps depth ⟨index, text.toList ++ more⟩ = .error fault := by
  obtain ⟨fault, alone, reason⟩ := value_of_parse_error refused ended
  have refusedHere : ∃ fault, value steps depthLimit ⟨0, text.toList⟩ = .error fault ∧
      fault.reason.isUnfinished = false := by
    have alike := (sufficesWithin steps).ofValue (stepsFor text.toList) ⟨0, text.toList⟩
      (Nat.le_refl depthLimit) (by dsimp only; omega) (Nat.le_succ _)
    rcases alike.eq_or_deep with same | ⟨place, deep⟩
    · exact ⟨fault, same.trans alone, reason ▸ finished⟩
    · exact ⟨_, deep, rfl⟩
  obtain ⟨fault, here, finished⟩ := refusedHere
  have extended := (extendsWithin ends steps).value depthLimit 0 index text.toList
  rw [here] at extended
  obtain ⟨faultToo, within⟩ := extended.of_error finished
  have reached : 2 * (text.toList ++ more).length + 1 ≤ steps := by
    rwa [List.length_append]
  rcases value_shallower ⟨index, text.toList ++ more⟩ reached levels with same | ⟨place, deep⟩
  · exact ⟨faultToo, same.trans within⟩
  · exact ⟨_, deep⟩

end

/-! ## Texts of arrays -/

theorem exists_of_map_eq_ok {α β : Type} {f : α → β} {result : Except Fault α} {b : β}
    (mapped : result.map f = .ok b) : ∃ a, f a = b := by
  cases result with
  | error fault => cases mapped
  | ok a => exact ⟨a, Except.ok.inj mapped⟩

theorem not_array_of_scalar? {c : Char} {rest : List Char} {cursor next : Cursor}
    {read : Json} (scalar : scalar? c rest cursor = some (.ok (read, next))) (all : List Json) :
    read ≠ .array all := by
  rintro rfl
  unfold scalar? at scalar
  split at scalar
  · next letters value meant =>
    obtain ⟨_, same⟩ := exists_of_map_eq_ok (Option.some.inj scalar)
    obtain ⟨rfl, -⟩ := Prod.mk.inj same
    unfold wordOf? at meant
    split at meant <;> cases meant
  · split at scalar
    · obtain ⟨_, same⟩ := exists_of_map_eq_ok (Option.some.inj scalar)
      cases same
    · split at scalar
      · obtain ⟨_, same⟩ := exists_of_map_eq_ok (Option.some.inj scalar)
        cases same
      · split at scalar
        · obtain ⟨_, same⟩ := exists_of_map_eq_ok (Option.some.inj scalar)
          cases same
        · cases scalar

/-- Only a bracket opens an array, and it opens nothing else. -/
theorem isArray_iff_bracket {blanks rest : List Char} {c : Char} {steps depth index : Nat}
    {read : Json} {next : Cursor} (blank : ∀ c ∈ blanks, isBlank c = true)
    (visible : isBlank c = false)
    (whole : value steps depth ⟨index, blanks ++ c :: rest⟩ = .ok (read, next)) :
    (∃ all, read = .array all) ↔ c = '[' := by
  cases steps with
  | zero => cases whole
  | succ steps =>
      unfold value at whole
      rw [skipBlanks_append blank, skipBlanks_cons visible] at whole
      dsimp only at whole
      split at whole
      · next result scalar =>
        subst whole
        refine iff_of_false (fun ⟨all, isArray⟩ => not_array_of_scalar? scalar all isArray) ?_
        rintro rfl
        cases scalar
      · split at whole
        · next bracket =>
          split at whole
          · cases whole
          · obtain ⟨_, same⟩ := exists_of_map_eq_ok whole
            obtain ⟨rfl, -⟩ := Prod.mk.inj same
            exact iff_of_true ⟨_, rfl⟩ (beq_iff_eq.mp bracket)
        · next other =>
          refine iff_of_false ?_ fun bracket => other (beq_iff_eq.mpr bracket)
          rintro ⟨all, rfl⟩
          split at whole
          · split at whole
            · cases whole
            · obtain ⟨_, same⟩ := exists_of_map_eq_ok whole
              cases same
          · cases whole

/-- The text of an array, blanks around it. It opens with a bracket and is read to the end; if it is
    refused then for what it holds, a number that is out of range for one, and neither because it
    breaks off nor because it goes on behind the array. -/
structure IsArrayText (text : String) : Prop where
  opens : ∃ blanks rest, text.toList = blanks ++ '[' :: rest ∧ ∀ c ∈ blanks, isBlank c = true
  closes : ∀ error, parse text = .error error →
    error.reason.isUnfinished = false ∧ error.reason ≠ .trailingCharacters

/-- Every text that is read as an array is one. -/
theorem isArrayText_of_parse {text : String} {all : List Json}
    (parsed : parse text = .ok (.array all)) : IsArrayText text := by
  obtain ⟨after, behind, -, whole⟩ := value_of_parse parsed
  obtain ⟨blanks, rest, shape, blank, stops⟩ := Text.exists_run isBlank text.toList
  refine ⟨?_, fun error refused => by cases parsed.symm.trans refused⟩
  cases rest with
  | nil =>
      rw [shape, stepsFor, value, skipBlanks_append blank] at whole
      cases whole
  | cons c rest =>
      rw [shape] at whole
      have visible := Text.startsOutside_cons.mp stops
      obtain rfl := (isArray_iff_bracket blank visible whole).mp ⟨all, rfl⟩
      exact ⟨blanks, rest, shape, blank⟩

/-- What the text of an array is read as is an array. -/
theorem IsArrayText.isArray {text : String} (list : IsArrayText text) {read : Json}
    (parsed : parse text = .ok read) : ∃ all, read = .array all := by
  obtain ⟨after, behind, -, whole⟩ := value_of_parse parsed
  obtain ⟨blanks, rest, shape, blank⟩ := list.opens
  rw [shape] at whole
  exact (isArray_iff_bracket blank rfl whole).mpr rfl

end Phrasebook.Json
