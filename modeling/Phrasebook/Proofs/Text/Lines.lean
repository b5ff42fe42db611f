import Phrasebook.Document

/-! # Lines

Splitting a text at a mark splits what stands before the mark and what stands behind it. So a text
has one line more than it has newlines, no line has a newline in it, and the lines of a text that
was put together from others are those of each of them.
-/

namespace Phrasebook.Text

variable {mark : Char}

/-! ## Parts -/

theorem not_mem_of_mem_splitOn {text part : List Char} (member : part ∈ text.splitOn mark) :
    mark ∉ part := by
  induction text generalizing part with
  | nil =>
      rw [List.splitOn_nil, List.mem_singleton] at member
      simp [member]
  | cons c text ih =>
      rw [List.splitOn_cons_eq_if_modifyHead] at member
      split at member
      · rcases List.mem_cons.mp member with rfl | later
        · exact List.not_mem_nil
        · exact ih later
      · next other =>
        have apart : mark ≠ c := fun same => other (beq_iff_eq.mpr same.symm)
        obtain ⟨first, more, parts⟩ :=
          List.exists_cons_of_ne_nil (List.splitOn_ne_nil mark text)
        rw [parts] at ih member
        rcases List.mem_cons.mp member with rfl | later
        · exact List.not_mem_cons_of_ne_of_not_mem apart (ih List.mem_cons_self)
        · exact ih (List.mem_cons_of_mem _ later)

theorem length_splitOn (mark : Char) (text : List Char) :
    (text.splitOn mark).length = text.count mark + 1 := by
  induction text with
  | nil => rfl
  | cons c text ih =>
      rw [List.splitOn_cons_eq_if_modifyHead, List.count_cons]
      split <;> simp [ih]

/-- A text that was put together with marks is split at these and wherever a part is. -/
theorem splitOn_intercalate_eq_flatMap {parts : List (List Char)} (filled : parts ≠ []) :
    ([mark].intercalate parts).splitOn mark = parts.flatMap (·.splitOn mark) := by
  induction parts with
  | nil => exact absurd rfl filled
  | cons part rest ih =>
      by_cases last : rest = []
      · simp [last]
      · rw [List.intercalate_cons_of_ne_nil last, List.append_assoc, List.singleton_append,
          List.splitOn_append_cons_self, ih last, List.flatMap_cons]

theorem intercalate_append {parts rest : List (List Char)} (filled : parts ≠ [])
    (filledToo : rest ≠ []) :
    [mark].intercalate (parts ++ rest) =
      [mark].intercalate parts ++ mark :: [mark].intercalate rest := by
  induction parts with
  | nil => exact absurd rfl filled
  | cons part parts ih =>
      by_cases last : parts = []
      · simp [last, List.intercalate_cons_of_ne_nil filledToo]
      · have more : parts ++ rest ≠ [] := List.append_ne_nil_of_left_ne_nil last rest
        rw [List.cons_append, List.intercalate_cons_of_ne_nil more, ih last,
          List.intercalate_cons_of_ne_nil last, List.append_assoc _ _ (mark :: _)]

/-! ## Lines of a text -/

theorem lines_ne_nil (text : String) : lines text ≠ [] := by
  simp [lines]

theorem length_lines (text : String) : (lines text).length = text.toList.count '\n' + 1 := by
  simp [lines, length_splitOn]

theorem unbroken_of_mem_lines {text line : String} (member : line ∈ lines text) :
    '\n' ∉ line.toList := by
  obtain ⟨part, partOf, rfl⟩ := List.mem_map.mp member
  simpa using not_mem_of_mem_splitOn partOf

theorem lines_of_unbroken {line : String} (unbroken : '\n' ∉ line.toList) :
    lines line = [line] := by
  simp [lines, List.splitOn_eq_singleton unbroken]

theorem lines_append_newline (text more : String) :
    lines (text ++ "\n" ++ more) = lines text ++ lines more := by
  have broken : (text ++ "\n" ++ more).toList = text.toList ++ '\n' :: more.toList := by simp
  rw [lines, broken, List.splitOn_append_cons_self, List.map_append]
  rfl

/-- The lines of texts that were joined are those of each of them. -/
theorem lines_ofLines {texts : List String} (filled : texts ≠ []) :
    lines (ofLines texts) = texts.flatMap lines := by
  have filledToo : texts.map String.toList ≠ [] := by simpa using filled
  rw [lines, ofLines, String.toList_ofList, splitOn_intercalate_eq_flatMap filledToo,
    List.flatMap_map, List.map_flatMap]
  rfl

theorem ofLines_append {texts more : List String} (filled : texts ≠ []) (filledToo : more ≠ []) :
    ofLines (texts ++ more) = ofLines texts ++ "\n" ++ ofLines more := by
  have joined : ['\n'].intercalate (texts.map String.toList ++ more.map String.toList) = _ :=
    intercalate_append (by simpa using filled) (by simpa using filledToo)
  apply String.toList_injective
  simp [ofLines, joined]

end Phrasebook.Text
