import Phrasebook.Proofs.Index.Collisions
import Phrasebook.Proofs.Translation.Rereading

/-! # Translating from language to language

A line may be translated again and again, into one language after the other. In a dictionary without
collisions every name that is written leads back to the entry it was taken from, so the way there
leaves no more behind than a pair of quotes.
-/

namespace Phrasebook

open Text

/-- The line after it was translated into some languages, one after the other. -/
def translateThrough (index : Index) (targets : List Language) (line : String) : String :=
  targets.foldl (fun line target => (translateLine index target line).1) line

/-- The lines have the same command, name and tail, and are the same but for quotes that only the
    second one may have around the name. -/
def QuotesApart (line quoted : String) : Prop :=
  ∃ command name tail,
    (∃ split, Line.read line.toList = .named ⟨command, split⟩ ∧
      split.name = name ∧ split.tail = tail) ∧
    (∃ split, Line.read quoted.toList = .named ⟨command, split⟩ ∧
      split.name = name ∧ split.tail = tail) ∧
    (quoted = line ∨
      line.toList = rebuild command name tail ∧
        quoted.toList = rebuild command ('"' :: name ++ ['"']) tail)

/-- A dictionary whose names can be written on any line and lead back to their entries. -/
structure Retargetable (entries : List Entry) : Prop where
  uncontested : Collision.ofEntries entries = []
  plain : ∀ entry ∈ entries, ∀ name ∈ entry.names, '"' ∉ name.toList ∧ '<' ∉ name.toList

/-- A line is read so that its name leads to an entry. -/
structure Spells (entries : List Entry) (entry : Entry) (reading : Reading) (line : String) :
    Prop where
  reads : reading.IsOf (trimBoth isSpace line.toList)
  known : (Index.build entries).lookup (String.ofList reading.name) = some entry

namespace Spells

variable {entries : List Entry} {entry : Entry} {reading : Reading} {line : String}
  {target : Language}

theorem mem (spells : Spells entries entry reading line) : entry ∈ entries :=
  (mem_writes.mp (Index.written_of_lookup spells.known)).1

theorem replacement_of_ne (named : entry.name target ≠ "") :
    reading.replacement entry target = entry.name target := by
  simp [Reading.replacement, replacementFor, named]

theorem replacement_of_eq (unnamed : entry.name target = "") :
    reading.replacement entry target = String.ofList reading.name := by
  simp [Reading.replacement, replacementFor, unnamed]

/-- What is written for the entry can be written where its name stood. -/
theorem holds (spells : Spells entries entry reading line) (retargetable : Retargetable entries)
    (target : Language) :
    Reading.Holds reading.isQuoted (reading.replacement entry target).toList := by
  by_cases named : entry.name target = ""
  · rw [replacement_of_eq named, String.toList_ofList]
    exact spells.reads.holds
  · rw [replacement_of_ne named]
    have listed : entry.name target ∈ entry.names := by
      simpa [Entry.names] using ⟨target, target.mem_all, rfl⟩
    obtain ⟨noQuote, noBracket⟩ := retargetable.plain entry spells.mem _ listed
    exact ⟨noQuote, .inr (.inr noBracket)⟩

/-- What is written for the entry leads back to it. -/
theorem lookup_replacement (spells : Spells entries entry reading line)
    (retargetable : Retargetable entries) (target : Language) :
    (Index.build entries).lookup (reading.replacement entry target) = some entry := by
  by_cases named : entry.name target = ""
  · rw [replacement_of_eq named]
    exact spells.known
  · rw [replacement_of_ne named]
    apply Index.lookup_of_mem_writes retargetable.uncontested
    exact mem_writes.mpr ⟨spells.mem, Entry.mem_keys.mpr ⟨target, named, rfl⟩⟩

theorem read (spells : Spells entries entry reading line) :
    Line.read line.toList = .named ⟨reading.command, reading.split⟩ :=
  Line.read_eq_named_iff.mpr ⟨reading, spells.reads, rfl⟩

/-- Translating the line leaves a line that spells the entry. -/
theorem translateLine (spells : Spells entries entry reading line)
    (retargetable : Retargetable entries) (target : Language) :
    Spells entries entry (reading.rewritten (reading.replacement entry target).toList)
      (translateLine (Index.build entries) target line).1 := by
  have ends := (trimmed_trimBoth isSpace line.toList).ends
  have filled := spells.reads.replacement_ne_nil entry target
  rw [translateLine_of_reading target spells.reads spells.known]
  constructor
  · rw [String.toList_ofList]
    exact spells.reads.read_rewritten ends filled (spells.holds retargetable target)
  · rw [Reading.rewritten, String.ofList_toList]
    exact spells.lookup_replacement retargetable target

/-- So does translating it through any languages; command and tail stay, and so do quotes. -/
theorem translateThrough (spells : Spells entries entry reading line)
    (retargetable : Retargetable entries) (targets : List Language) :
    ∃ other, Spells entries entry other (translateThrough (Index.build entries) targets line) ∧
      other.command = reading.command ∧ other.tail = reading.tail ∧
      (reading.isQuoted = true → other.isQuoted = true) := by
  induction targets generalizing reading line with
  | nil => exact ⟨reading, spells, rfl, rfl, id⟩
  | cons target targets ih =>
      have step := spells.translateLine retargetable target
      obtain ⟨other, spellsToo, command, tail, quoted⟩ := ih step
      refine ⟨other, spellsToo, command, tail, fun before => quoted ?_⟩
      exact Reading.isQuoted_rewritten.mpr (.inl before)

/-- With a name in the language, the line is set with that name. -/
theorem translateLine_eq (spells : Spells entries entry reading line)
    (named : entry.name target ≠ "") :
    (Phrasebook.translateLine (Index.build entries) target line).1 =
      String.ofList (reading.rewritten (entry.name target).toList).text := by
  rw [translateLine_of_reading target spells.reads spells.known, replacement_of_ne named]

end Spells

/-- Where one reading has quotes only if the other has them, so it is with a new name in both. -/
theorem Reading.rewritten_alike {one other : Reading} (command : other.command = one.command)
    (tail : other.tail = one.tail) (quoted : one.isQuoted = true → other.isQuoted = true)
    (name : List Char) :
    (other.rewritten name).text = (one.rewritten name).text ∨
      (one.rewritten name).text = rebuild one.command name one.tail ∧
        (other.rewritten name).text = rebuild one.command ('"' :: name ++ ['"']) one.tail := by
  simp only [text_rewritten, command, tail, quoteIfNeeded, Bool.or_eq_true]
  by_cases written : one.isQuoted = true ∨ name.any isSpace = true
  · rw [if_pos written, if_pos (written.imp_left quoted)]
    exact .inl rfl
  · rw [if_neg written]
    by_cases writtenToo : other.isQuoted = true ∨ name.any isSpace = true
    · rw [if_pos writtenToo]
      exact .inr ⟨rfl, rfl⟩
    · rw [if_neg writtenToo]
      exact .inl rfl

/-! ## Lines that are not translated -/

theorem translateLine_untouched {index : Index} {language : Language} {line : String}
    (untranslated : (translateLine index language line).2.isTranslated = false)
    (target : Language) : (translateLine index target line).1 = line := by
  rcases translateLine_cases index target line with ⟨reading, entry, reads, known⟩ | untouched
  · rw [translateLine_of_reading language reads known] at untranslated
    cases untranslated
  · exact untouched.2

theorem translateThrough_untouched {index : Index} {line : String}
    (untouched : ∀ target, (translateLine index target line).1 = line) (targets : List Language) :
    translateThrough index targets line = line := by
  induction targets with
  | nil => rfl
  | cons target targets ih =>
      rw [translateThrough, List.foldl_cons, untouched target]
      exact ih

/-! ## The way does not matter -/

/-- In a dictionary without collisions and without quotes and brackets in its names, only the last
    language matters: translating a line into some languages and at last into one that has a name
    for every entry comes to the same as translating it into that one, but for quotes around the
    name. A line that is not translated stays as it is. -/
theorem translateThrough_path_independent {entries : List Entry} {target : Language}
    (uncontested : Collision.ofEntries entries = [])
    (plain : ∀ entry ∈ entries, ∀ name ∈ entry.names, '"' ∉ name.toList ∧ '<' ∉ name.toList)
    (named : ∀ entry ∈ entries, entry.name target ≠ "") (earlier : List Language) (line : String) :
    ((translateLine (Index.build entries) target line).2.isTranslated = true →
      QuotesApart (translateLine (Index.build entries) target line).1
        (translateThrough (Index.build entries) (earlier ++ [target]) line)) ∧
    ∀ language, (translateLine (Index.build entries) language line).2.isTranslated = false →
      translateThrough (Index.build entries) (earlier ++ [target]) line = line := by
  have retargetable : Retargetable entries := ⟨uncontested, plain⟩
  constructor
  · intro translated
    rcases translateLine_cases (Index.build entries) target line with
      ⟨reading, entry, reads, known⟩ | untouched
    · have spells : Spells entries entry reading line := ⟨reads, known⟩
      obtain ⟨other, spellsToo, command, tail, quoted⟩ :=
        spells.translateThrough retargetable earlier
      have last : translateThrough (Index.build entries) (earlier ++ [target]) line =
          (translateLine (Index.build entries) target
            (translateThrough (Index.build entries) earlier line)).1 := by
        rw [translateThrough, List.foldl_append]
        rfl
      have direct := (spells.translateLine retargetable target).read
      have final := (spellsToo.translateLine retargetable target).read
      have filled := named entry spells.mem
      rw [Spells.replacement_of_ne filled] at direct final
      refine ⟨reading.command, (entry.name target).toList, reading.tail,
        ⟨_, direct, rfl, rfl⟩, ⟨_, last ▸ command ▸ final, rfl, tail⟩, ?_⟩
      rw [last, spells.translateLine_eq filled, spellsToo.translateLine_eq filled,
        String.toList_ofList, String.toList_ofList]
      exact (Reading.rewritten_alike command tail quoted _).imp_left (congrArg String.ofList)
    · rw [untouched.1] at translated
      cases translated
  · intro language untranslated
    exact translateThrough_untouched (translateLine_untouched untranslated) _

/-- The way leads over a name in quotes, and over a language without a name for the entry, where the
    name in quotes stays. -/
theorem translateThrough_path_independent_moon :
    Collision.ofEntries [⟨"", "Mondstein", "Pierre de lune"⟩, ⟨"Cure", "Vita", ""⟩] = [] ∧
    QuotesApart
      (translateLine (.build [⟨"", "Mondstein", "Pierre de lune"⟩, ⟨"Cure", "Vita", ""⟩]) .de
        "/ac MONDSTEIN <t>").1
      (translateThrough (.build [⟨"", "Mondstein", "Pierre de lune"⟩, ⟨"Cure", "Vita", ""⟩])
        [.fr, .en, .de] "/ac MONDSTEIN <t>") := by
  have uncontested :
      Collision.ofEntries [⟨"", "Mondstein", "Pierre de lune"⟩, ⟨"Cure", "Vita", ""⟩] = [] := by
    decide
  have source : Line.read "/ac MONDSTEIN <t>".toList =
      .named ⟨"/ac".toList, ⟨[' '], "MONDSTEIN".toList, false, [], " <t>".toList⟩⟩ := by decide
  have known : (Index.build [⟨"", "Mondstein", "Pierre de lune"⟩, ⟨"Cure", "Vita", ""⟩]).lookup
      (String.ofList "MONDSTEIN".toList) = some ⟨"", "Mondstein", "Pierre de lune"⟩ := by
    rw [Index.lookup_build]
    decide
  have translated := congrArg (·.2.isTranslated) (translateLine_of_named .de source known)
  exact ⟨uncontested, (translateThrough_path_independent uncontested (by decide) (by decide)
    [.fr, .en] "/ac MONDSTEIN <t>").1 translated⟩

end Phrasebook
