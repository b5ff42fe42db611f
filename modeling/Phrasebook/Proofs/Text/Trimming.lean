import Mathlib.Data.List.TakeWhile
import Phrasebook.Text.Space

/-! # Runs and trims

A text that is cut at the first or the last character outside a class falls apart in one way only.
The cuts of `takeWhile`, `dropWhile`, `trimEnd` and `endRun` are told here by what stands on both
sides of them, so that later proofs put texts together and never look into the cuts again.
-/

namespace Phrasebook.Text

variable {p : Char → Bool} {text run rest : List Char}

/-- The text is empty or starts with a character outside the class. -/
def StartsOutside (p : Char → Bool) (text : List Char) : Prop :=
  ∀ c ∈ text.head?, p c = false

/-- The text is empty or ends with a character outside the class. -/
def EndsOutside (p : Char → Bool) (text : List Char) : Prop :=
  ∀ c ∈ text.getLast?, p c = false

/-- Neither end of the text has a character of the class. -/
structure Trimmed (p : Char → Bool) (text : List Char) : Prop where
  starts : StartsOutside p text
  ends : EndsOutside p text

theorem startsOutside_cons {c : Char} : StartsOutside p (c :: text) ↔ p c = false := by
  simp [StartsOutside]

theorem startsOutside_reverse : StartsOutside p text.reverse ↔ EndsOutside p text := by
  simp [StartsOutside, EndsOutside]

/-! ## Runs at the start -/

theorem takeWhile_run (inside : ∀ c ∈ run, p c = true) (outside : StartsOutside p rest) :
    (run ++ rest).takeWhile p = run := by
  rw [List.takeWhile_append_of_pos inside]
  cases rest with
  | nil => simp
  | cons c rest => simp [startsOutside_cons.mp outside]

theorem dropWhile_run (inside : ∀ c ∈ run, p c = true) (outside : StartsOutside p rest) :
    (run ++ rest).dropWhile p = rest := by
  rw [List.dropWhile_append_of_pos inside]
  cases rest with
  | nil => rfl
  | cons c rest => simp [startsOutside_cons.mp outside]

theorem startsOutside_append (outside : StartsOutside p text) (outsideToo : StartsOutside p rest) :
    StartsOutside p (text ++ rest) := by
  cases text with
  | nil => exact outsideToo
  | cons c text => exact startsOutside_cons.mpr (startsOutside_cons.mp outside)

theorem startsOutside_dropWhile (p : Char → Bool) (text : List Char) :
    StartsOutside p (text.dropWhile p) := by
  intro c first
  have stops := List.head?_dropWhile_not p text
  rw [Option.mem_def.mp first] at stops
  exact stops

/-- Every text is a run of the class and a rest that it stops at. -/
theorem exists_run (p : Char → Bool) (text : List Char) :
    ∃ run rest, text = run ++ rest ∧ (∀ c ∈ run, p c = true) ∧ StartsOutside p rest :=
  ⟨text.takeWhile p, text.dropWhile p, List.takeWhile_append_dropWhile.symm,
    fun _ member => List.mem_takeWhile_imp member, startsOutside_dropWhile p text⟩

/-- What stands behind a text and is outside of the class does not change the run at its start. -/
theorem takeWhile_append (text : List Char) (outside : StartsOutside p rest) :
    (text ++ rest).takeWhile p = text.takeWhile p := by
  obtain ⟨run, stop, rfl, inside, stops⟩ := exists_run p text
  rw [List.append_assoc, takeWhile_run inside stops,
    takeWhile_run inside (startsOutside_append stops outside)]

theorem dropWhile_append (text : List Char) (outside : StartsOutside p rest) :
    (text ++ rest).dropWhile p = text.dropWhile p ++ rest := by
  obtain ⟨run, stop, rfl, inside, stops⟩ := exists_run p text
  rw [List.append_assoc, dropWhile_run inside stops,
    dropWhile_run inside (startsOutside_append stops outside)]

/-! ## Runs at the end -/

theorem trimEnd_run (outside : EndsOutside p text) (inside : ∀ c ∈ run, p c = true) :
    trimEnd p (text ++ run) = text := by
  rw [trimEnd, List.reverse_append, dropWhile_run (by simpa using inside)
    (startsOutside_reverse.mpr outside), List.reverse_reverse]

theorem endRun_run (outside : EndsOutside p text) (inside : ∀ c ∈ run, p c = true) :
    endRun p (text ++ run) = run := by
  rw [endRun, List.reverse_append, takeWhile_run (by simpa using inside)
    (startsOutside_reverse.mpr outside), List.reverse_reverse]

theorem endsOutside_trimEnd (p : Char → Bool) (text : List Char) :
    EndsOutside p (trimEnd p text) := by
  rw [← startsOutside_reverse, trimEnd, List.reverse_reverse]
  exact startsOutside_dropWhile p text.reverse

theorem inside_endRun {c : Char} (member : c ∈ endRun p text) : p c = true := by
  rw [endRun, List.mem_reverse] at member
  exact List.mem_takeWhile_imp member

theorem startsOutside_trimEnd (starts : StartsOutside p text) :
    StartsOutside p (trimEnd p text) := by
  intro c first
  apply starts c
  rw [← trimEnd_append_endRun p text, List.head?_append, Option.mem_def.mp first]
  rfl

/-! ## Both ends -/

theorem sublist_trimBoth (p : Char → Bool) (text : List Char) :
    (trimBoth p text).Sublist text := by
  have kept := List.sublist_append_left (trimEnd p (text.dropWhile p)) (endRun p (text.dropWhile p))
  rw [trimEnd_append_endRun] at kept
  exact kept.trans (List.dropWhile_sublist p)

theorem trimmed_trimBoth (p : Char → Bool) (text : List Char) : Trimmed p (trimBoth p text) where
  starts := startsOutside_trimEnd (startsOutside_dropWhile p text)
  ends := endsOutside_trimEnd p _

theorem trimBoth_of_trimmed (trimmed : Trimmed p text) : trimBoth p text = text := by
  have inside : ∀ c ∈ [], p c = true := by simp
  have kept : text.dropWhile p = text := dropWhile_run inside trimmed.starts
  rw [trimBoth, kept]
  simpa using trimEnd_run trimmed.ends inside

/-- A text is what its trim leaves of it and a run at either end. -/
theorem exists_trimBoth (p : Char → Bool) (text : List Char) :
    ∃ front back, text = front ++ trimBoth p text ++ back ∧
      (∀ c ∈ front, p c = true) ∧ ∀ c ∈ back, p c = true := by
  refine ⟨text.takeWhile p, endRun p (text.dropWhile p), ?_,
    fun _ member => List.mem_takeWhile_imp member, fun _ member => inside_endRun member⟩
  rw [List.append_assoc, trimBoth, trimEnd_append_endRun, List.takeWhile_append_dropWhile]

theorem endsOutside_append (filled : rest ≠ []) :
    EndsOutside p (text ++ rest) ↔ EndsOutside p rest := by
  rw [EndsOutside, EndsOutside, List.getLast?_append, List.getLast?_eq_some_getLast filled,
    Option.some_or]

/-- A text of the class that ends outside it has no characters. -/
theorem eq_nil_of_endsOutside (inside : ∀ c ∈ run, p c = true) (ends : EndsOutside p run) :
    run = [] := by
  cases last : run.getLast? with
  | none => exact List.getLast?_eq_none_iff.mp last
  | some c =>
      have outside := ends c last
      rw [inside c (List.mem_of_getLast? last)] at outside
      cases outside

/-- Nothing is left of a text of the class, and of no other text. -/
theorem trimBoth_eq_nil_iff : trimBoth p text = [] ↔ ∀ c ∈ text, p c = true := by
  constructor
  · intro nothing
    have rest := trimEnd_append_endRun p (text.dropWhile p)
    rw [← trimBoth, nothing, List.nil_append] at rest
    intro c member
    rw [← List.takeWhile_append_dropWhile (p := p) (l := text), List.mem_append] at member
    rcases member with run | later
    · exact List.mem_takeWhile_imp run
    · exact inside_endRun (rest ▸ later)
  · intro inside
    rw [trimBoth, List.dropWhile_eq_nil_iff.mpr inside]
    rfl

theorem trimBoth_between {front back : List Char} (inside : ∀ c ∈ front, p c = true)
    (trimmed : Trimmed p text) (insideToo : ∀ c ∈ back, p c = true) :
    trimBoth p (front ++ text ++ back) = text := by
  cases text with
  | nil =>
      rw [List.append_nil]
      exact trimBoth_eq_nil_iff.mpr fun c member =>
        (List.mem_append.mp member).elim (inside c) (insideToo c)
  | cons c rest =>
      have starts : StartsOutside p (c :: rest ++ back) :=
        startsOutside_cons.mpr (startsOutside_cons.mp trimmed.starts)
      rw [List.append_assoc, trimBoth, dropWhile_run inside starts,
        trimEnd_run trimmed.ends insideToo]

theorem trimWhite_trimWhite (text : String) : trimWhite (trimWhite text) = trimWhite text := by
  rw [trimWhite, trimWhite, String.toList_ofList,
    trimBoth_of_trimmed (trimmed_trimBoth isWhite text.toList)]

end Phrasebook.Text
