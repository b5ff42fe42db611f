import Phrasebook.Proofs.Text.Lines
import Phrasebook.Proofs.Translation.Rereading

/-! # Documents line by line

A document is translated line by line whatever its dictionary: where the keys are empty and nothing
is looked at, there is nothing to translate on any line either. What stands before a newline and
what stands behind it are therefore translated each on its own.
-/

namespace Phrasebook

open Text

theorem Index.lookup_of_isEmpty {index : Index} (empty : index.isEmpty = true) (name : String) :
    index.lookup name = none := by
  have unwritten : index.byKey[key name]? = none := Std.HashMap.getElem?_of_isEmpty empty
  rw [lookup_eq_bind, unwritten, Option.bind_none]

theorem translateLine_of_isEmpty {index : Index} (empty : index.isEmpty = true)
    (target : Language) (line : String) : (translateLine index target line).1 = line := by
  rcases translateLine_cases index target line with ⟨reading, entry, -, known⟩ | untouched
  · rw [index.lookup_of_isEmpty empty] at known
    cases known
  · exact untouched.2

theorem translateDocument_eq (index : Index) (target : Language) (text : String) :
    translateDocument index target text =
      ofLines ((lines text).map fun line => (translateLine index target line).1) := by
  unfold translateDocument
  split
  · next empty =>
    simp only [translateLine_of_isEmpty empty, List.map_id', ofLines_lines]
  · rfl

theorem fst_translateWithReport (index : Index) (target : Language) (text : String) :
    (translateWithReport index target text).1 = translateDocument index target text := by
  unfold translateWithReport translateDocument
  split
  · rfl
  · simp only [List.map_map]
    rfl

theorem translateDocument_append_newline (index : Index) (target : Language)
    (text more : String) :
    translateDocument index target (text ++ "\n" ++ more) =
      translateDocument index target text ++ "\n" ++ translateDocument index target more := by
  have filled (text : String) :
      (lines text).map (fun line => (translateLine index target line).1) ≠ [] := by
    simpa using lines_ne_nil text
  simp only [translateDocument_eq, lines_append_newline, List.map_append,
    ofLines_append (filled text) (filled more)]

/-- A line may be translated to several, if a name has a newline. -/
theorem lines_translateDocument (index : Index) (target : Language) (text : String) :
    lines (translateDocument index target text) =
      (lines text).flatMap fun line => lines (translateLine index target line).1 := by
  rw [translateDocument_eq, lines_ofLines (by simpa using lines_ne_nil text), List.flatMap_map]

/-- Translating a document is translating its lines, whether or not the dictionary has a key, and
    with a report or without. Without a key no line changes. A newline parts a document into two
    that have nothing to do with each other. -/
theorem translateDocument_linewise (index : Index) (target : Language) :
    (∀ text, translateDocument index target text =
      ofLines ((lines text).map fun line => (translateLine index target line).1)) ∧
    (∀ text, (translateWithReport index target text).1 = translateDocument index target text) ∧
    (index.isEmpty = true → ∀ line, (translateLine index target line).1 = line) ∧
    ∀ text more, translateDocument index target (text ++ "\n" ++ more) =
      translateDocument index target text ++ "\n" ++ translateDocument index target more :=
  ⟨translateDocument_eq index target, fst_translateWithReport index target,
    fun empty => translateLine_of_isEmpty empty target,
    translateDocument_append_newline index target⟩

/-- A dictionary of entries that have no names has no keys, and the lines keep even the space around
    them. -/
theorem translateDocument_linewise_nameless :
    (Index.build [⟨"", "", ""⟩, ⟨"", "", ""⟩]).isEmpty = true ∧
    (translateLine (.build [⟨"", "", ""⟩, ⟨"", "", ""⟩]) .fr " /ac  Stone <t>\r").1 =
      " /ac  Stone <t>\r" := by
  have empty : (Index.build [⟨"", "", ""⟩, ⟨"", "", ""⟩]).isEmpty = true := by decide
  exact ⟨empty, (translateDocument_linewise _ .fr).2.2.1 empty _⟩

end Phrasebook
