import Phrasebook.Proofs.Json.Fields
import Phrasebook.Proofs.Text.LetterCase
import Phrasebook.Proofs.Translation.Rereading

/-! # Names in another case

A name leads to one entry however its letters are written. So a line whose name is written in
another case is still read with that name, and the same becomes of it.
-/

namespace Phrasebook

open Text

namespace Index

theorem lookup_congr {index : Index} {one other : String} (same : key one = key other) :
    index.lookup one = index.lookup other := by
  rw [lookup_eq_bind, lookup_eq_bind, same]

theorem lookup_lowercase (index : Index) (query : String) :
    index.lookup (lowercase query) = index.lookup query :=
  lookup_congr (lowercase_lowercase query)

theorem lookup_of_lowerAscii_eq (index : Index) {one other : String}
    (alike : lowerAscii one = lowerAscii other) : index.lookup one = index.lookup other :=
  lookup_congr (lowercase_congr alike)

end Index

/-! ## Names -/

variable {name nameToo : List Char}

/-- A mark that is no letter is in a text in whatever case the text is written. -/
theorem mem_of_map_toLower {mark : Char} (alike : nameToo.map Char.toLower = name.map Char.toLower)
    (plain : ∀ n : Fin 26, Char.ofNat (97 + n) ≠ mark ∧ Char.ofNat (65 + n) ≠ mark)
    (member : mark ∈ nameToo) : mark ∈ name := by
  have within : mark ∈ name.map Char.toLower := by
    rw [← alike]
    exact List.mem_map.mpr ⟨mark, member, (toLower_eq_iff plain mark).mpr rfl⟩
  obtain ⟨c, there, lowered⟩ := List.mem_map.mp within
  have same : c = mark := (toLower_eq_iff plain c).mp lowered
  exact same ▸ there

theorem IsQuotable.recased (quotable : IsQuotable name)
    (alike : nameToo.map Char.toLower = name.map Char.toLower) : IsQuotable nameToo where
  filled := by
    rintro rfl
    exact quotable.filled (List.map_eq_nil_iff.mp alike.symm)
  noQuote := fun member => quotable.noQuote (mem_of_map_toLower alike (by decide) member)

theorem IsBare.recased (bare : IsBare name)
    (alike : nameToo.map Char.toLower = name.map Char.toLower) : IsBare nameToo where
  toIsQuotable := bare.toIsQuotable.recased alike
  noBracket := fun member => bare.noBracket (mem_of_map_toLower alike (by decide) member)
  trimmed := by
    rw [← trimmed_map_toLower, alike, trimmed_map_toLower]
    exact bare.trimmed

/-! ## Lines -/

namespace Reading

/-- The reading with another name in the same place and form. -/
def named (reading : Reading) (name : List Char) : Reading :=
  { reading with name := name }

/-- The lines are the same but for the ASCII case of letters in the name: the first is read as
    `reading`, and the second has `name` in the place of its name. -/
structure Recased (reading : Reading) (name : List Char) (line lineToo : String) : Prop where
  reads : reading.IsOf (trimBoth isSpace line.toList)
  alike : lowerAscii (String.ofList name) = lowerAscii (String.ofList reading.name)
  around : ∃ front back, (∀ c ∈ front, isSpace c = true) ∧ (∀ c ∈ back, isSpace c = true) ∧
    line.toList = front ++ reading.text ++ back ∧
    lineToo.toList = front ++ (reading.named name).text ++ back

variable {reading : Reading}

theorem IsOf.recased {text : List Char} (reads : reading.IsOf text)
    (alike : name.map Char.toLower = reading.name.map Char.toLower) :
    (reading.named name).IsOf (reading.named name).text where
  command := reads.command
  takesName := reads.takesName
  gapFilled := reads.gapFilled
  gapSpace := reads.gapSpace
  name := by
    have written := reads.name
    by_cases quoted : reading.isQuoted = true
    · rw [if_pos quoted] at written
      exact (if_pos quoted).mpr (written.recased alike)
    · rw [if_neg quoted] at written
      exact (if_neg quoted).mpr ⟨written.1.recased alike, written.2⟩
  whole := rfl

theorem map_toLower_text (alike : name.map Char.toLower = reading.name.map Char.toLower) :
    (reading.named name).text.map Char.toLower = reading.text.map Char.toLower := by
  unfold text token
  rw [show (reading.named name).isQuoted = reading.isQuoted from rfl]
  split <;> simp [named, alike]

/-- A line whose name is written in another case is read with that name. -/
theorem Recased.readsToo {line lineToo : String} (recased : Recased reading name line lineToo) :
    (reading.named name).IsOf (trimBoth isSpace lineToo.toList) := by
  have alike := lowerAscii_eq_iff.mp recased.alike
  rw [String.toList_ofList, String.toList_ofList] at alike
  obtain ⟨front, back, space, spaceToo, -, whole⟩ := recased.around
  have trimmed : Trimmed isSpace (reading.named name).text := by
    rw [← trimmed_map_toLower, map_toLower_text alike, trimmed_map_toLower, recased.reads.whole]
    exact trimmed_trimBoth isSpace line.toList
  rw [whole, trimBoth_between space trimmed spaceToo]
  exact recased.reads.recased alike

end Reading

/-! ## Translations -/

/-- What becomes of a line, without the names in it. -/
def LineOutcome.kind? (outcome : LineOutcome) : Option Json :=
  outcome.toJson.field? "kind"

theorem kind?_unknownName (name : String) :
    (LineOutcome.unknownName name).kind? = some (.string "unknown_name") := by
  simp [LineOutcome.kind?, LineOutcome.toJson, Json.field?_ofFields, Json.lookup_cons_ite]

theorem kind?_translated (name replacement : String) (fallback : Bool) :
    (LineOutcome.translated name replacement fallback).kind? = some (.string "translated") := by
  simp [LineOutcome.kind?, LineOutcome.toJson, Json.field?_ofFields, Json.lookup_cons_ite]

theorem translateLine_of_unknown {index : Index} {line : String} {reading : Reading}
    (target : Language) (reads : reading.IsOf (trimBoth isSpace line.toList))
    (unknown : index.lookup (String.ofList reading.name) = none) :
    translateLine index target line = (line, .unknownName (String.ofList reading.name)) := by
  have read := Line.read_eq_named_iff.mpr ⟨reading, reads, rfl⟩
  simp only [translateLine, read, Reading.split, unknown]

/-- The name that an entry has of its own is written whatever name stood on the line. -/
theorem Reading.replacement_of_filled {entry : Entry} {target : Language}
    (filled : entry.name target ≠ "") (reading : Reading) :
    reading.replacement entry target = entry.name target := by
  simp only [replacement, replacementFor, if_neg filled]

/-- Look-ups do not see case: neither that of a whole query, though the lower case of a sigma hangs
    on the letters around it, nor that of single ASCII letters. So the same becomes of two lines
    that differ in the ASCII case of the name alone, and where the entry has a name in the language
    they are translated to one line. -/
theorem lookup_ignores_case (index : Index) :
    (∀ query, index.lookup (lowercase query) = index.lookup query ∧
      lowercase (lowercase query) = lowercase query) ∧
    (∀ one other, lowerAscii one = lowerAscii other → index.lookup one = index.lookup other) ∧
    ∀ reading name line lineToo target, Reading.Recased reading name line lineToo →
      (translateLine index target lineToo).2.kind? = (translateLine index target line).2.kind? ∧
      ∀ entry, index.lookup (String.ofList reading.name) = some entry → entry.name target ≠ "" →
        (translateLine index target lineToo).1 = (translateLine index target line).1 := by
  refine ⟨?queries, fun _ _ alike => index.lookup_of_lowerAscii_eq alike, ?lines⟩
  case queries =>
    intro query
    exact ⟨index.lookup_lowercase query, lowercase_lowercase query⟩
  case lines =>
    intro reading name line lineToo target recased
    have found := index.lookup_of_lowerAscii_eq recased.alike
    cases known : index.lookup (String.ofList reading.name) with
    | none =>
        rw [known] at found
        rw [translateLine_of_unknown target recased.reads known,
          translateLine_of_unknown target recased.readsToo found, kind?_unknownName,
          kind?_unknownName]
        exact ⟨rfl, fun _ => nofun⟩
    | some entry =>
        rw [known] at found
        rw [translateLine_of_reading target recased.reads known,
          translateLine_of_reading target recased.readsToo found, kind?_translated,
          kind?_translated]
        refine ⟨rfl, ?_⟩
        rintro _ ⟨⟩ filled
        rw [Reading.replacement_of_filled filled, Reading.replacement_of_filled filled]
        rfl

/-- The letter behind the sigma is written as a capital, and the sigma is still not a final one. -/
theorem lookup_ignores_case_sigma :
    let index := Index.build [⟨"οδοσA", "", "Rue"⟩]
    lowerAscii "ΟΔΟΣA" = lowerAscii "ΟΔΟΣa" ∧
    index.lookup "ΟΔΟΣA" = index.lookup "ΟΔΟΣa" ∧
    Reading.Recased ⟨"/ac".toList, [' '], "ΟΔΟΣa".toList, false, "<t>".toList⟩ "ΟΔΟΣA".toList
      "/ac ΟΔΟΣa<t>\r" "/ac ΟΔΟΣA<t>\r" ∧
    index.lookup (String.ofList "ΟΔΟΣa".toList) = some ⟨"οδοσA", "", "Rue"⟩ ∧
    (translateLine index .fr "/ac ΟΔΟΣA<t>\r").1 =
      (translateLine index .fr "/ac ΟΔΟΣa<t>\r").1 := by
  intro index
  have alike : lowerAscii "ΟΔΟΣA" = lowerAscii "ΟΔΟΣa" := lowerAscii_eq_iff.mpr (by decide)
  have source : Line.read "/ac ΟΔΟΣa<t>\r".toList =
      .named ⟨"/ac".toList, ⟨[' '], "ΟΔΟΣa".toList, false, [], "<t>".toList⟩⟩ := by decide
  have recased : Reading.Recased ⟨"/ac".toList, [' '], "ΟΔΟΣa".toList, false, "<t>".toList⟩
      "ΟΔΟΣA".toList "/ac ΟΔΟΣa<t>\r" "/ac ΟΔΟΣA<t>\r" := by
    obtain ⟨⟨command, gap, name, isQuoted, tail⟩, reads, same⟩ := Line.read_eq_named_iff.mp source
    simp only [Reading.split, NamedCommand.mk.injEq, Split.mk.injEq] at same
    obtain ⟨rfl, rfl, rfl, rfl, -, rfl⟩ := same
    exact ⟨reads, alike, [], ['\r'], List.forall_mem_nil _,
      List.forall_mem_singleton.mpr (by decide), by decide, by decide⟩
  have known : index.lookup (String.ofList "ΟΔΟΣa".toList) = some ⟨"οδοσA", "", "Rue"⟩ := by
    rw [Index.lookup_build]
    decide
  obtain ⟨-, lookups, lines⟩ := lookup_ignores_case index
  exact ⟨alike, lookups _ _ alike, recased, known,
    (lines _ _ _ _ .fr recased).2 _ known (by decide)⟩

end Phrasebook
