import Mathlib.Data.List.Basic
import Phrasebook.Dictionary
import Phrasebook.Proofs.Document.Linewise
import Phrasebook.Session.Request

/-! # How many lines a document has

Lines are set anew without newlines, but for those in the name that is written. So a translated
document has one line more for every newline in a name that was written in it, and the documents of
a dictionary keep their number of lines exactly when no name that a line can hold leads to an entry
whose name has a newline.
-/

namespace Phrasebook

open Text

/-- The name that is written on a translated line. -/
def LineOutcome.written : LineOutcome → List Char
  | .translated _ replacement _ => replacement.toList
  | _ => []

theorem LineOutcome.written_of_not_isTranslated {outcome : LineOutcome}
    (untranslated : outcome.isTranslated = false) : outcome.written = [] := by
  cases outcome with
  | translated => cases untranslated
  | notCommand | passThrough | noName | unknownName => rfl

/-- No name that can be written on a line leads to an entry that has a newline in its name in the
    language. -/
def Index.KeepsLines (index : Index) (target : Language) : Prop :=
  ∀ name entry, IsQuotable name → '\n' ∉ name →
    index.lookup (String.ofList name) = some entry → '\n' ∉ (entry.name target).toList

/-! ## Newlines on a line -/

namespace Reading

theorem count_text (reading : Reading) :
    reading.text.count '\n' = reading.command.count '\n' + reading.gap.count '\n' +
      reading.name.count '\n' + reading.tail.count '\n' := by
  unfold text token
  split
  · simp [List.count_append, Nat.add_assoc]
  · simp only [List.count_append]

theorem IsOf.isQuotable {reading : Reading} {text : List Char} (reads : reading.IsOf text) :
    IsQuotable reading.name :=
  ⟨reads.filled, reads.holds.1⟩

theorem IsOf.count_eq_zero {reading : Reading} {line : String}
    (reads : reading.IsOf (trimBoth isSpace line.toList)) (unbroken : '\n' ∉ line.toList) :
    reading.text.count '\n' = 0 := by
  rw [reads.whole, List.count_eq_zero]
  exact fun member => unbroken ((sublist_trimBoth isSpace line.toList).subset member)

theorem IsOf.unbroken {reading : Reading} {line : String}
    (reads : reading.IsOf (trimBoth isSpace line.toList)) (unbroken : '\n' ∉ line.toList) :
    '\n' ∉ reading.name := by
  have total := reads.count_eq_zero unbroken
  rw [count_text] at total
  rw [← List.count_eq_zero]
  omega

theorem IsOf.count_rewritten {reading : Reading} {line : String}
    (reads : reading.IsOf (trimBoth isSpace line.toList)) (unbroken : '\n' ∉ line.toList)
    (name : List Char) : (reading.rewritten name).text.count '\n' = name.count '\n' := by
  -- Command and tail are from a line that has no newlines, so only the name can bring some.
  have total := reads.count_eq_zero unbroken
  have parts := count_text (reading.rewritten name)
  have gap : [' '].count '\n' = 0 := by decide
  rw [count_text] at total
  simp only [Reading.rewritten] at parts ⊢
  omega

end Reading

variable {index : Index} {target : Language} {line : String}

theorem count_translateLine (index : Index) (target : Language) (unbroken : '\n' ∉ line.toList) :
    (translateLine index target line).1.toList.count '\n' =
      (translateLine index target line).2.written.count '\n' := by
  rcases translateLine_cases index target line with ⟨reading, entry, reads, known⟩ | untouched
  · rw [translateLine_of_reading target reads known]
    simp only [String.toList_ofList, LineOutcome.written]
    exact reads.count_rewritten unbroken _
  · rw [untouched.2, LineOutcome.written_of_not_isTranslated untouched.1]
    exact List.count_eq_zero.mpr unbroken

theorem length_flatMap_translateLine (index : Index) (target : Language) {texts : List String}
    (unbroken : ∀ line ∈ texts, '\n' ∉ line.toList) :
    (texts.flatMap fun line => lines (translateLine index target line).1).length =
      texts.length +
        (texts.flatMap fun line => (translateLine index target line).2.written).count '\n' := by
  induction texts with
  | nil => rfl
  | cons line rest ih =>
      obtain ⟨first, later⟩ := List.forall_mem_cons.mp unbroken
      rw [List.flatMap_cons, List.length_append, ih later, length_lines,
        count_translateLine index target first, List.flatMap_cons, List.count_append,
        List.length_cons]
      omega

theorem length_lines_translateDocument (index : Index) (target : Language) (text : String) :
    (lines (translateDocument index target text)).length =
      (lines text).length +
        ((lines text).flatMap fun line => (translateLine index target line).2.written).count
          '\n' := by
  rw [lines_translateDocument]
  exact length_flatMap_translateLine index target fun _ => unbroken_of_mem_lines

/-! ## Dictionaries that keep lines -/

namespace Index.KeepsLines

theorem of_unbroken {entries : List Entry}
    (unbroken : ∀ entry ∈ entries, ∀ name ∈ entry.names, '\n' ∉ name.toList) (target : Language) :
    (Index.build entries).KeepsLines target := by
  intro name entry _ _ known
  have member := (mem_writes.mp (Index.written_of_lookup known)).1
  exact unbroken entry member _ (List.mem_map_of_mem target.mem_all)

theorem unbroken_written (keeps : index.KeepsLines target) (unbroken : '\n' ∉ line.toList) :
    '\n' ∉ (translateLine index target line).2.written := by
  rcases translateLine_cases index target line with ⟨reading, entry, reads, known⟩ | untouched
  · have name := reads.unbroken unbroken
    have localized := keeps _ entry reads.isQuotable name known
    rw [translateLine_of_reading target reads known]
    simp only [LineOutcome.written, Reading.replacement, replacementFor]
    split
    · rwa [String.toList_ofList]
    · exact localized
  · rw [LineOutcome.written_of_not_isTranslated untouched.1]
    exact List.not_mem_nil

theorem unbroken_translateLine (keeps : index.KeepsLines target) (unbroken : '\n' ∉ line.toList) :
    '\n' ∉ (translateLine index target line).1.toList := by
  rw [← List.count_eq_zero, count_translateLine index target unbroken, List.count_eq_zero]
  exact keeps.unbroken_written unbroken

theorem lines_eq_map (keeps : index.KeepsLines target) (text : String) :
    lines (translateDocument index target text) =
      (lines text).map fun line => (translateLine index target line).1 := by
  rw [lines_translateDocument, List.map_eq_flatMap]
  apply List.flatMap_congr
  intro line member
  exact lines_of_unbroken (keeps.unbroken_translateLine (unbroken_of_mem_lines member))

end Index.KeepsLines

/-! ## Lines made for a name -/

/-- The line on which a command takes a name in quotes. -/
def Reading.ofName (name : List Char) : Reading :=
  ⟨['/', 'a', 'c'], [' '], name, true, []⟩

theorem Reading.isOf_ofName {name : List Char} (quotable : IsQuotable name) :
    (ofName name).IsOf (trimBoth isSpace (ofName name).text) := by
  have trimmed : Trimmed isSpace (ofName name).text := by
    constructor
    · rintro _ ⟨⟩
      decide
    · have closed : (ofName name).text = (['/', 'a', 'c', ' ', '"'] ++ name) ++ ['"'] := by
        simp [ofName, text, token]
      rw [closed, endsOutside_append (List.cons_ne_nil _ _)]
      rintro _ ⟨⟩
      decide
  have isCommand : IsCommand ['/', 'a', 'c'] := by
    refine ⟨['a', 'c'], rfl, List.cons_ne_nil _ _, ?_⟩
    rw [List.forall_mem_cons, List.forall_mem_singleton]
    decide
  have takesName : lowercase (String.ofList ['/', 'a', 'c']) ∉ passThroughCommands := by decide
  have gapSpace : ∀ c ∈ [' '], isSpace c = true := List.forall_mem_singleton.mpr (by decide)
  rw [trimBoth_of_trimmed trimmed]
  exact ⟨isCommand, takesName, List.cons_ne_nil _ _, gapSpace, quotable, rfl⟩

theorem Index.keepsLines_of_length
    (kept : ∀ text, (lines (translateDocument index target text)).length = (lines text).length) :
    index.KeepsLines target := by
  intro name entry quotable unbroken known
  -- The line made for the name is a document of its own, and its length tells what was written.
  let line := String.ofList (Reading.ofName name).text
  have reads : (Reading.ofName name).IsOf (trimBoth isSpace line.toList) := by
    rw [String.toList_ofList]
    exact Reading.isOf_ofName quotable
  have whole : '\n' ∉ line.toList := by
    rw [← List.count_eq_zero, String.toList_ofList, Reading.count_text]
    simpa [Reading.ofName] using List.count_eq_zero.mpr unbroken
  have written : '\n' ∉ (translateLine index target line).2.written := by
    have length := kept line
    rw [length_lines_translateDocument, lines_of_unbroken whole, List.flatMap_singleton] at length
    rw [← List.count_eq_zero]
    omega
  rw [translateLine_of_reading target reads known] at written
  by_cases named : entry.name target = ""
  · simp [named]
  · simpa [LineOutcome.written, Reading.replacement, replacementFor, named] using written

/-- A translated document, with a report or without, has a line more for every newline in the names
    that were written in it. Every document keeps its number of lines exactly if no name that can
    stand on a line leads to an entry with a newline in its name in the language. -/
theorem translateDocument_line_count (index : Index) (target : Language) :
    (∀ text, (lines (translateDocument index target text)).length =
      (lines text).length +
        ((lines text).flatMap fun line => (translateLine index target line).2.written).count
          '\n') ∧
    (∀ text, (translateWithReport index target text).1 = translateDocument index target text) ∧
    ((∀ text, (lines (translateDocument index target text)).length = (lines text).length) ↔
      index.KeepsLines target) := by
  refine ⟨length_lines_translateDocument index target, fst_translateWithReport index target,
    Index.keepsLines_of_length, ?_⟩
  intro keeps text
  rw [keeps.lines_eq_map, List.length_map]

/-- A dictionary may have a newline in a name, and the name is written as it is: the one line of the
    document becomes two. -/
theorem translateDocument_breaks_line :
    Dictionary.ofText "names.json" "[\x7b\"en\": \"Stone\", \"fr\": \"Pierre\\nde lune\"\x7d]" =
      .ok [⟨"Stone", "", "Pierre\nde lune"⟩] ∧
    Request.entries (.object [("entries", .array
      [.object [("en", .string "Stone"), ("fr", .string "Pierre\nde lune")]])]) =
      .ok [⟨"Stone", "", "Pierre\nde lune"⟩] ∧
    lines "/ac Stone <t>" = ["/ac Stone <t>"] ∧
    lines (translateDocument (.build [⟨"Stone", "", "Pierre\nde lune"⟩]) .fr "/ac Stone <t>") =
      ["/ac \"Pierre", "de lune\" <t>"] ∧
    lines (translateWithReport (.build [⟨"Stone", "", "Pierre\nde lune"⟩]) .fr
      "/ac Stone <t>").1 = ["/ac \"Pierre", "de lune\" <t>"] := by
  have whole : lines "/ac Stone <t>" = ["/ac Stone <t>"] := by decide
  have source : Line.read "/ac Stone <t>".toList =
      .named ⟨"/ac".toList, ⟨[' '], "Stone".toList, false, [], " <t>".toList⟩⟩ := by decide
  have known : (Index.build [⟨"Stone", "", "Pierre\nde lune"⟩]).lookup
      (String.ofList "Stone".toList) = some ⟨"Stone", "", "Pierre\nde lune"⟩ := by
    rw [Index.lookup_build]
    decide
  have broken : lines (translateDocument (.build [⟨"Stone", "", "Pierre\nde lune"⟩]) .fr
      "/ac Stone <t>") = ["/ac \"Pierre", "de lune\" <t>"] := by
    rw [lines_translateDocument, whole, List.flatMap_singleton,
      translateLine_of_named .fr source known]
    decide
  refine ⟨by decide +kernel, rfl, whole, broken, ?_⟩
  rw [fst_translateWithReport]
  exact broken

end Phrasebook
