import Phrasebook.Proofs.Index.Lookup
import Phrasebook.Proofs.Line.Grammar
import Phrasebook.Translation

/-! # Reading a translated line

A translated line has the command and the tail of the line it was made from, and another name. It
reads back to these parts exactly when the name can be written in the form that the line has for it:
a quote can never be written, and a bracket only between quotes.
-/

namespace Phrasebook

open Text

/-! ## Lines with another name -/

namespace Reading

/-- The reading with another name: behind one space, and in quotes if the name that was there had
    them or the new one needs them. -/
def rewritten (reading : Reading) (name : List Char) : Reading :=
  ⟨reading.command, [' '], name, reading.isQuoted || name.any isSpace, reading.tail⟩

/-- Whether a name can be written where a name stood that was in quotes or was not. -/
def Holds (isQuoted : Bool) (name : List Char) : Prop :=
  '"' ∉ name ∧ (isQuoted = true ∨ (∃ c ∈ name, isSpace c = true) ∨ '<' ∉ name)

theorem text_rewritten (reading : Reading) (name : List Char) :
    (reading.rewritten name).text =
      rebuild reading.command (quoteIfNeeded name reading.isQuoted) reading.tail := by
  simp [text, token, rewritten, rebuild, quoteIfNeeded]

theorem isQuoted_rewritten {reading : Reading} {name : List Char} :
    (reading.rewritten name).isQuoted = true ↔
      reading.isQuoted = true ∨ ∃ c ∈ name, isSpace c = true := by
  simp [rewritten]

theorem IsOf.filled {reading : Reading} {text : List Char} (reads : reading.IsOf text) :
    reading.name ≠ [] := by
  have name := reads.name
  split at name
  · exact name.filled
  · exact name.1.filled

/-- What was written once can be written again in the same place. -/
theorem IsOf.holds {reading : Reading} {text : List Char} (reads : reading.IsOf text) :
    Holds reading.isQuoted reading.name := by
  have name := reads.name
  split at name
  · next quoted => exact ⟨name.noQuote, .inl quoted⟩
  · exact ⟨name.1.noQuote, .inr (.inr name.1.noBracket)⟩

theorem IsOf.rewritten {reading : Reading} {text name : List Char} (reads : reading.IsOf text)
    (filled : name ≠ []) (holds : Holds reading.isQuoted name) :
    (reading.rewritten name).IsOf (reading.rewritten name).text where
  command := reads.command
  takesName := reads.takesName
  gapFilled := List.cons_ne_nil _ _
  gapSpace := by
    intro c member
    rw [List.mem_singleton.mp member]
    decide
  name := by
    split
    · exact ⟨filled, holds.1⟩
    · next unquoted =>
      rw [isQuoted_rewritten, not_or] at unquoted
      obtain ⟨bareBefore, solid⟩ := unquoted
      have bracketless : '<' ∉ name := (holds.2.resolve_left bareBefore).resolve_left solid
      have outside : ∀ c ∈ name, isSpace c = false := fun c member => by
        simpa using fun space => solid ⟨c, member, space⟩
      have trimmed : Trimmed isSpace name :=
        ⟨fun c first => outside c (List.mem_of_head? first),
          fun c last => outside c (List.mem_of_getLast? last)⟩
      have tail := reads.name
      rw [if_neg bareBefore] at tail
      exact ⟨⟨⟨filled, holds.1⟩, bracketless, trimmed⟩, tail.2⟩
  whole := rfl

theorem IsOf.endsOutside_tail {reading : Reading} {text : List Char} (reads : reading.IsOf text)
    (ends : EndsOutside isSpace text) : EndsOutside isSpace reading.tail := by
  by_cases filled : reading.tail = []
  · rw [filled]
    intro c last
    cases last
  · rw [← reads.whole, Reading.text, endsOutside_append filled] at ends
    exact ends

theorem endsOutside_token (reading : Reading) (name : List Char) :
    EndsOutside isSpace (reading.rewritten name).token := by
  unfold token
  split
  · rw [endsOutside_append (List.cons_ne_nil _ _)]
    rintro _ ⟨⟩
    decide
  · next unquoted =>
    rw [isQuoted_rewritten, not_or] at unquoted
    intro c last
    simpa using fun space => unquoted.2 ⟨c, List.mem_of_getLast? last, space⟩

theorem token_ne_nil {reading : Reading} (filled : reading.name ≠ []) : reading.token ≠ [] := by
  unfold token
  split
  · exact List.cons_ne_nil _ _
  · exact filled

/-- A line that was set anew has no space at its ends. -/
theorem IsOf.trimmed_rewritten {reading : Reading} {text name : List Char}
    (reads : reading.IsOf text) (ends : EndsOutside isSpace text) (filled : name ≠ []) :
    Trimmed isSpace (reading.rewritten name).text where
  starts := by
    obtain ⟨word, command, -⟩ := reads.command
    intro c first
    simp only [Reading.text, Reading.rewritten, command, List.cons_append, List.head?_cons,
      Option.mem_some_iff] at first
    subst first
    decide
  ends := by
    by_cases tail : reading.tail = []
    · have unended : (reading.rewritten name).text =
          (reading.command ++ [' ']) ++ (reading.rewritten name).token := by
        simp [Reading.text, Reading.rewritten, tail]
      rw [unended, endsOutside_append (token_ne_nil filled)]
      exact endsOutside_token reading name
    · exact (endsOutside_append tail).mpr (reads.endsOutside_tail ends)

theorem IsOf.read_rewritten {reading : Reading} {text name : List Char}
    (reads : reading.IsOf text) (ends : EndsOutside isSpace text) (filled : name ≠ [])
    (holds : Holds reading.isQuoted name) :
    (reading.rewritten name).IsOf (trimBoth isSpace (reading.rewritten name).text) := by
  rw [trimBoth_of_trimmed (reads.trimmed_rewritten ends filled)]
  exact reads.rewritten filled holds

/-- A text that is read with the new name, between the old command and the old tail, holds it. -/
theorem IsOf.holds_of_rewritten {reading other : Reading} {name : List Char}
    (readsToo : other.IsOf (reading.rewritten name).text)
    (command : other.command = reading.command)
    (same : other.name = name) (tail : other.tail = reading.tail) :
    Holds reading.isQuoted name := by
  have holds := readsToo.holds
  rw [same] at holds
  by_cases quoted : other.isQuoted = true
  · refine ⟨holds.1, ?_⟩
    by_contra unquoted
    -- Without quotes the text is too short for the quotes of the other reading.
    have bare : ¬ (reading.rewritten name).isQuoted = true := fun written =>
      unquoted ((isQuoted_rewritten.mp written).imp_right .inl)
    have size := congrArg List.length readsToo.whole
    have gap := List.length_pos_iff.mpr readsToo.gapFilled
    simp only [Reading.text, token, quoted, if_true, command, same, tail, if_neg bare] at size
    simp only [Reading.rewritten, List.length_append, List.length_cons, List.length_nil] at size
    omega
  · exact ⟨holds.1, .inr (holds.2.resolve_left quoted)⟩

theorem IsOf.reread_iff {reading : Reading} {text name : List Char} (reads : reading.IsOf text)
    (ends : EndsOutside isSpace text) (filled : name ≠ []) :
    (∃ written, Line.read (reading.rewritten name).text = .named ⟨reading.command, written⟩ ∧
      written.name = name ∧ written.tail = reading.tail) ↔ Holds reading.isQuoted name := by
  constructor
  · rintro ⟨written, read, same, tail⟩
    obtain ⟨other, readsToo, parts⟩ := Line.read_eq_named_iff.mp read
    obtain ⟨command, rfl⟩ := NamedCommand.mk.inj parts
    rw [trimBoth_of_trimmed (reads.trimmed_rewritten ends filled)] at readsToo
    exact readsToo.holds_of_rewritten command.symm same tail
  · intro holds
    exact ⟨_, Line.read_eq_named_iff.mpr ⟨_, reads.read_rewritten ends filled holds, rfl⟩, rfl, rfl⟩

end Reading

/-! ## Translations -/

theorem replacementFor_ne_empty {entry : Entry} {target : Language} {name : String}
    (filled : name ≠ "") : (replacementFor entry target name).1 ≠ "" := by
  unfold replacementFor
  dsimp only
  split
  · exact filled
  · next named => exact named

/-- The name that is written for an entry on a line. -/
def Reading.replacement (reading : Reading) (entry : Entry) (target : Language) : String :=
  (replacementFor entry target (String.ofList reading.name)).1

theorem Reading.IsOf.replacement_ne_nil {reading : Reading} {text : List Char}
    (reads : reading.IsOf text) (entry : Entry) (target : Language) :
    (reading.replacement entry target).toList ≠ [] := by
  have named : String.ofList reading.name ≠ "" := by simpa using reads.filled
  simpa [Reading.replacement] using replacementFor_ne_empty named

theorem translateLine_of_named {index : Index} {line : String} {command : List Char}
    {split : Split} {entry : Entry} (target : Language)
    (read : Line.read line.toList = .named ⟨command, split⟩)
    (known : index.lookup (String.ofList split.name) = some entry) :
    translateLine index target line =
      let (replacement, fallback) := replacementFor entry target (String.ofList split.name)
      (String.ofList (rebuild command (quoteIfNeeded replacement.toList split.isQuoted) split.tail),
        .translated (String.ofList split.name) replacement fallback) := by
  simp only [translateLine, read, known]

theorem translateLine_of_reading {index : Index} {line : String} {reading : Reading} {entry : Entry}
    (target : Language) (reads : reading.IsOf (trimBoth isSpace line.toList))
    (known : index.lookup (String.ofList reading.name) = some entry) :
    translateLine index target line =
      (String.ofList (reading.rewritten (reading.replacement entry target).toList).text,
        .translated (String.ofList reading.name) (reading.replacement entry target)
          (replacementFor entry target (String.ofList reading.name)).2) := by
  have read := Line.read_eq_named_iff.mpr ⟨reading, reads, rfl⟩
  rw [translateLine_of_named target read known, Reading.text_rewritten]
  rfl

/-- A line with a name that is known is translated, and every other line is left as it is. -/
theorem translateLine_cases (index : Index) (target : Language) (line : String) :
    (∃ reading : Reading, ∃ entry, reading.IsOf (trimBoth isSpace line.toList) ∧
      index.lookup (String.ofList reading.name) = some entry) ∨
    ((translateLine index target line).2.isTranslated = false ∧
      (translateLine index target line).1 = line) := by
  cases read : Line.read line.toList with
  | notCommand | passThrough | noName =>
      exact .inr (by simp [translateLine, read, LineOutcome.isTranslated])
  | named named =>
      obtain ⟨reading, reads, rfl⟩ := Line.read_eq_named_iff.mp read
      cases known : index.lookup (String.ofList reading.name) with
      | none =>
          exact .inr (by simp [translateLine, read, Reading.split, known, LineOutcome.isTranslated])
      | some entry => exact .inl ⟨reading, entry, reads, known⟩

theorem exists_reading_of_translated {index : Index} {target : Language}
    {line out name replacement : String} {fallback : Bool}
    (translated : translateLine index target line = (out, .translated name replacement fallback)) :
    ∃ reading : Reading, reading.IsOf (trimBoth isSpace line.toList) ∧ replacement.toList ≠ [] ∧
      out.toList = (reading.rewritten replacement.toList).text := by
  rcases translateLine_cases index target line with ⟨reading, entry, reads, known⟩ | untouched
  · rw [translateLine_of_reading target reads known] at translated
    cases translated
    exact ⟨reading, reads, reads.replacement_ne_nil entry target, String.toList_ofList⟩
  · rw [translated] at untouched
    cases untouched.1

/-- A translated line reads back to the command, the replacement and the tail exactly when its form
    holds the replacement; the replacement then stands in quotes if the name did or if it has space
    in it. The line has no space at its ends. -/
theorem translated_reads_back {index : Index} {target : Language}
    {line out name replacement : String} {fallback : Bool} {command : List Char} {split : Split}
    (translated : translateLine index target line = (out, .translated name replacement fallback))
    (source : Line.read line.toList = .named ⟨command, split⟩) :
    ((∃ written, Line.read out.toList = .named ⟨command, written⟩ ∧
        written.name = replacement.toList ∧ written.tail = split.tail) ↔
      '"' ∉ replacement.toList ∧
        (split.isQuoted = true ∨ (∃ c ∈ replacement.toList, isSpace c = true) ∨
          '<' ∉ replacement.toList)) ∧
    (∀ written, Line.read out.toList = .named ⟨command, written⟩ →
      written.name = replacement.toList → written.tail = split.tail →
      (written.isQuoted = true ↔
        split.isQuoted = true ∨ ∃ c ∈ replacement.toList, isSpace c = true)) ∧
    Trimmed isSpace out.toList := by
  obtain ⟨reading, reads, filled, written⟩ := exists_reading_of_translated translated
  obtain ⟨other, readsToo, same⟩ := Line.read_eq_named_iff.mp source
  obtain ⟨rfl, rfl⟩ := NamedCommand.mk.inj same
  obtain rfl := reads.unique readsToo
  have ends := (trimmed_trimBoth isSpace line.toList).ends
  rw [written]
  refine ⟨reads.reread_iff ends filled, ?_, reads.trimmed_rewritten ends filled⟩
  intro split read name tail
  have holds := (reads.reread_iff ends filled).mp ⟨split, read, name, tail⟩
  have reread := Line.read_eq_named_iff.mpr ⟨_, reads.read_rewritten ends filled holds, rfl⟩
  obtain ⟨-, rfl⟩ := NamedCommand.mk.inj (Line.named.inj (read.symm.trans reread))
  exact Reading.isQuoted_rewritten

/-- The replacement gets quotes for the space in it and may then hold a bracket; the tail sticks to
    the name as before. -/
theorem translated_reads_back_quoted :
    translateLine (.build [⟨"Stone", "Stein", "Pierre < 2"⟩]) .fr "\uFEFF/ac stone<wait.3> " =
      ("/ac \"Pierre < 2\"<wait.3>", .translated "stone" "Pierre < 2" false) ∧
    Line.read "\uFEFF/ac stone<wait.3> ".toList =
      .named ⟨"/ac".toList, ⟨[' '], "stone".toList, false, [], "<wait.3>".toList⟩⟩ ∧
    ∃ written, Line.read "/ac \"Pierre < 2\"<wait.3>".toList = .named ⟨"/ac".toList, written⟩ ∧
      written.name = "Pierre < 2".toList ∧ written.tail = "<wait.3>".toList := by
  have source : Line.read "\uFEFF/ac stone<wait.3> ".toList =
      .named ⟨"/ac".toList, ⟨[' '], "stone".toList, false, [], "<wait.3>".toList⟩⟩ := by decide
  have known : (Index.build [⟨"Stone", "Stein", "Pierre < 2"⟩]).lookup
      (String.ofList "stone".toList) = some ⟨"Stone", "Stein", "Pierre < 2"⟩ := by
    rw [Index.lookup_build]
    decide
  have translated := translateLine_of_named .fr source known
  have plain : '"' ∉ "Pierre < 2".toList := by decide
  have spaced : ∃ c ∈ "Pierre < 2".toList, isSpace c = true := ⟨' ', by decide, by decide⟩
  exact ⟨translated, source,
    (translated_reads_back translated source).1.mpr ⟨plain, .inr (.inl spaced)⟩⟩

end Phrasebook
