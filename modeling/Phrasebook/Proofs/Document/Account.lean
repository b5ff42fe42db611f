import Phrasebook.Proofs.Document.Linewise
import Phrasebook.Proofs.Index.LastWrite

/-! # What a report tells

A report is filled line by line. Recording a line keeps the counters at the numbers of items of
their kinds, and adds an item behind the others or none; so over a whole document the items are
those of the lines with a command that takes a name, each under the number of its line.
-/

namespace Phrasebook

open Text

/-! ## Outcomes -/

namespace LineOutcome

/-- Whether a line with this outcome has an item in a report. -/
def isListed : LineOutcome → Bool
  | .notCommand | .passThrough => false
  | .noName | .unknownName _ | .translated .. => true

/-- Whether an outcome is a name that was not found. -/
def isUnknown : LineOutcome → Bool
  | .unknownName _ => true
  | _ => false

theorem isListed_iff {outcome : LineOutcome} :
    outcome.isListed = true ↔ outcome ≠ .notCommand ∧ outcome ≠ .passThrough := by
  cases outcome <;> simp [isListed]

theorem isListed_of_isTranslated {outcome : LineOutcome}
    (translated : outcome.isTranslated = true) : outcome.isListed = true := by
  cases outcome with
  | translated => rfl
  | notCommand | passThrough | noName | unknownName => cases translated

end LineOutcome

/-- What stands for a name on a translated line: the name that its entry has in the language, or the
    name itself where the entry has none. -/
structure Replaces (index : Index) (target : Language) (name replacement : String)
    (fallback : Bool) (entry : Entry) : Prop where
  found : index.lookup name = some entry
  fallback_iff : fallback = true ↔ entry.name target = ""
  kept : fallback = true → replacement = name
  localized : fallback = false → replacement = entry.name target

theorem replaces_replacementFor {index : Index} {name : String} {entry : Entry}
    (found : index.lookup name = some entry) (target : Language) :
    Replaces index target name (replacementFor entry target name).1
      (replacementFor entry target name).2 entry := by
  unfold replacementFor
  dsimp only
  by_cases nameless : entry.name target = ""
  · rw [if_pos nameless]
    exact ⟨found, iff_of_true rfl nameless, fun _ => rfl, nofun⟩
  · rw [if_neg nameless]
    exact ⟨found, iff_of_false nofun nameless, nofun, fun _ => rfl⟩

theorem exists_replaces_of_translated {index : Index} {target : Language}
    {line name replacement : String} {fallback : Bool}
    (outcome : (translateLine index target line).2 = .translated name replacement fallback) :
    replacement ≠ "" ∧ ∃ entry, Replaces index target name replacement fallback entry := by
  rcases translateLine_cases index target line with ⟨reading, entry, reads, known⟩ | untouched
  · have filled := reads.replacement_ne_nil entry target
    rw [translateLine_of_reading target reads known] at outcome
    cases outcome
    exact ⟨by simpa using filled, entry, replaces_replacementFor known target⟩
  · rw [outcome] at untouched
    cases untouched.1

theorem translateLine_of_not_isTranslated {index : Index} {target : Language} {line : String}
    (untranslated : (translateLine index target line).2.isTranslated = false) :
    (translateLine index target line).1 = line := by
  rcases translateLine_cases index target line with ⟨reading, entry, reads, known⟩ | untouched
  · rw [translateLine_of_reading target reads known] at untranslated
    cases untranslated
  · exact untouched.2

/-! ## Recording lines -/

namespace Report

variable {report : Report}

/-- Each counter is the number of items of its kind. -/
structure IsTallied (report : Report) : Prop where
  translated : report.translated = report.items.countP fun item => item.outcome.isTranslated
  unknown : report.unknown = report.items.countP fun item => item.outcome.isUnknown

theorem IsTallied.record (tallied : report.IsTallied) (lineNumber : Nat) (outcome : LineOutcome) :
    (report.record lineNumber outcome).IsTallied := by
  obtain ⟨translated, unknown⟩ := tallied
  cases outcome with
  | notCommand | passThrough => exact ⟨translated, unknown⟩
  | noName | unknownName | translated =>
      constructor
      · simp [Report.record, translated, LineOutcome.isTranslated]
      · simp [Report.record, unknown, LineOutcome.isUnknown]

theorem items_record (report : Report) (lineNumber : Nat) (outcome : LineOutcome) :
    (report.record lineNumber outcome).items =
      report.items ++ if outcome.isListed then [⟨lineNumber, outcome⟩] else [] := by
  cases outcome with
  | notCommand | passThrough => exact (List.append_nil _).symm
  | noName | unknownName | translated => rfl

theorem lines_record (report : Report) (lineNumber : Nat) (outcome : LineOutcome) :
    (report.record lineNumber outcome).lines = report.lines := by
  cases outcome <;> rfl

theorem dictionaryEmpty_record (report : Report) (lineNumber : Nat) (outcome : LineOutcome) :
    (report.record lineNumber outcome).dictionaryEmpty = report.dictionaryEmpty := by
  cases outcome <;> rfl

/-- The items of successive lines, the first of which has the given number. -/
def itemsFrom (lineNumber : Nat) (outcomes : List LineOutcome) : List ReportItem :=
  ((outcomes.zipIdx lineNumber).map fun (outcome, number) => ⟨number, outcome⟩).filter
    fun item => item.outcome.isListed

theorem itemsFrom_cons (lineNumber : Nat) (outcome : LineOutcome) (rest : List LineOutcome) :
    itemsFrom lineNumber (outcome :: rest) =
      (if outcome.isListed then [⟨lineNumber, outcome⟩] else []) ++
        itemsFrom (lineNumber + 1) rest := by
  rw [itemsFrom, List.zipIdx_cons, List.map_cons, List.filter_cons]
  dsimp only
  split
  · rfl
  · rfl

theorem mem_itemsFrom_iff {lineNumber : Nat} {outcomes : List LineOutcome} {item : ReportItem} :
    item ∈ itemsFrom lineNumber outcomes ↔
      ∃ place, outcomes[place]? = some item.outcome ∧ item.lineNumber = lineNumber + place ∧
        item.outcome.isListed = true := by
  simp only [itemsFrom, List.mem_filter, List.mem_map, Prod.exists,
    List.mem_zipIdx_iff_le_and_getElem?_sub]
  constructor
  · rintro ⟨⟨outcome, number, ⟨le, found⟩, rfl⟩, listed⟩
    exact ⟨number - lineNumber, found, (Nat.add_sub_of_le le).symm, listed⟩
  · rintro ⟨place, found, number, listed⟩
    refine ⟨⟨item.outcome, item.lineNumber, ⟨?_, ?_⟩, rfl⟩, listed⟩
    · omega
    · rwa [number, Nat.add_sub_cancel_left]

theorem pairwise_itemsFrom (lineNumber : Nat) (outcomes : List LineOutcome) :
    ((itemsFrom lineNumber outcomes).map ReportItem.lineNumber).Pairwise (· < ·) := by
  have rising : ((outcomes.zipIdx lineNumber).map Prod.snd).Pairwise (· < ·) := by
    rw [List.zipIdx_map_snd]
    exact List.pairwise_lt_range'
  rw [List.pairwise_map] at rising ⊢
  apply List.Pairwise.filter
  exact List.pairwise_map.mpr rising

/-- What recording lines makes of a report: the items of the lines come behind those it has, and
    tallies stay right. -/
structure Records (before : Report) (lineNumber : Nat) (outcomes : List LineOutcome)
    (after : Report) : Prop where
  dictionaryEmpty : after.dictionaryEmpty = before.dictionaryEmpty
  lines : after.lines = before.lines
  items : after.items = before.items ++ itemsFrom lineNumber outcomes
  tallied : before.IsTallied → after.IsTallied

theorem records_recordFrom (report : Report) (lineNumber : Nat) (outcomes : List LineOutcome) :
    report.Records lineNumber outcomes (recordFrom lineNumber report outcomes) := by
  induction outcomes generalizing report lineNumber with
  | nil => exact ⟨rfl, rfl, (List.append_nil _).symm, id⟩
  | cons outcome rest ih =>
      obtain ⟨dictionaryEmpty, lines, items, tallied⟩ :=
        ih (report.record lineNumber outcome) (lineNumber + 1)
      refine ⟨?_, ?_, ?_, ?_⟩
      · exact dictionaryEmpty.trans (dictionaryEmpty_record report lineNumber outcome)
      · exact lines.trans (lines_record report lineNumber outcome)
      · rw [itemsFrom_cons, ← List.append_assoc, ← items_record]
        exact items
      · exact fun right => tallied (right.record lineNumber outcome)

end Report

/-! ## Documents -/

section Documents

variable {index : Index} {target : Language} {text : String}

/-- The items of the lines of a document. -/
def documentItems (index : Index) (target : Language) (text : String) : List ReportItem :=
  Report.itemsFrom 1 ((lines text).map fun line => (translateLine index target line).2)

theorem mem_documentItems_iff {item : ReportItem} :
    item ∈ documentItems index target text ↔
      ∃ place line, (lines text)[place]? = some line ∧
        item = ⟨place + 1, (translateLine index target line).2⟩ ∧
        item.outcome ≠ .notCommand ∧ item.outcome ≠ .passThrough := by
  rw [documentItems, Report.mem_itemsFrom_iff]
  simp only [List.getElem?_map, Option.map_eq_some_iff, LineOutcome.isListed_iff]
  constructor
  · rintro ⟨place, ⟨line, found, outcome⟩, number, kind⟩
    refine ⟨place, line, found, ?_, kind⟩
    rw [outcome, Nat.add_comm, ← number]
  · rintro ⟨place, line, found, rfl, kind⟩
    exact ⟨place, ⟨line, found, rfl⟩, Nat.add_comm _ _, kind⟩

/-- A line that no item tells to be translated comes back as it was. -/
theorem translateLine_of_unlisted {place : Nat} {line : String}
    (found : (lines text)[place]? = some line)
    (unlisted : ∀ item ∈ documentItems index target text,
      item.lineNumber = place + 1 → item.outcome.isTranslated = false) :
    (translateLine index target line).1 = line := by
  apply translateLine_of_not_isTranslated
  by_contra translated
  rw [Bool.not_eq_false] at translated
  have kind := LineOutcome.isListed_iff.mp (LineOutcome.isListed_of_isTranslated translated)
  have listed := mem_documentItems_iff.mpr ⟨place, line, found, rfl, kind⟩
  cases (unlisted _ listed rfl).symm.trans translated

theorem translateWithReport_of_filled (filled : index.isEmpty = false) (target : Language)
    (text : String) :
    translateWithReport index target text =
      (ofLines ((lines text).map fun line => (translateLine index target line).1),
        Report.recordFrom 1 { lines := text.toList.count '\n' + 1 }
          ((lines text).map fun line => (translateLine index target line).2)) := by
  unfold translateWithReport
  rw [if_neg (by simp [filled]), length_lines]
  simp only [List.map_map]
  rfl

end Documents

/-- What a translated text and its report tell of a document, line by line. -/
structure Report.Accounts (index : Index) (target : Language) (text out : String)
    (report : Report) : Prop where
  dictionaryEmpty : report.dictionaryEmpty = false
  lines : report.lines = text.toList.count '\n' + 1
  inOrder : (report.items.map ReportItem.lineNumber).Pairwise (· < ·)
  /-- The items are those of the lines with a command that takes a name. -/
  listed : ∀ item, item ∈ report.items ↔ ∃ place line, (Text.lines text)[place]? = some line ∧
    item = ⟨place + 1, (translateLine index target line).2⟩ ∧
    item.outcome ≠ .notCommand ∧ item.outcome ≠ .passThrough
  tallied : report.IsTallied
  /-- A line that is not listed as translated comes back as it was. -/
  returned : ∃ written, out = ofLines written ∧ written.length = (Text.lines text).length ∧
    ∀ place line, (Text.lines text)[place]? = some line →
      (∀ item ∈ report.items, item.lineNumber = place + 1 → item.outcome.isTranslated = false) →
      written[place]? = some line
  replaced : ∀ item ∈ report.items, ∀ name replacement fallback,
    item.outcome = .translated name replacement fallback →
      replacement ≠ "" ∧ ∃ entry, Replaces index target name replacement fallback entry

theorem accounts_of_records {index : Index} {target : Language} {text : String} {report : Report}
    (records : Report.Records { lines := text.toList.count '\n' + 1 } 1
      ((lines text).map fun line => (translateLine index target line).2) report) :
    report.Accounts index target text
      (ofLines ((lines text).map fun line => (translateLine index target line).1)) := by
  have items : report.items = documentItems index target text := by
    rw [records.items, List.nil_append, documentItems]
  refine ⟨records.dictionaryEmpty, records.lines, ?_, ?_, records.tallied ⟨rfl, rfl⟩, ?_, ?_⟩
  · rw [items]
    exact Report.pairwise_itemsFrom 1 _
  · intro item
    rw [items]
    exact mem_documentItems_iff
  · rw [items]
    refine ⟨_, rfl, List.length_map _, fun place line found unlisted => ?_⟩
    rw [List.getElem?_map, found, Option.map_some, translateLine_of_unlisted found unlisted]
  · intro item member name replacement fallback outcome
    rw [items] at member
    obtain ⟨place, line, -, rfl, -⟩ := mem_documentItems_iff.mp member
    exact exists_replaces_of_translated outcome

/-- A report accounts for every line of a document. Where the dictionary has no key, it says so and
    tells the number of lines, and nothing else. -/
theorem translateWithReport_accounts (index : Index) (target : Language) (text : String) :
    (index.isEmpty = false →
      (translateWithReport index target text).2.Accounts index target text
        (translateWithReport index target text).1) ∧
    (index.isEmpty = true → translateWithReport index target text =
      (text, { dictionaryEmpty := true, lines := text.toList.count '\n' + 1 })) := by
  constructor
  · intro filled
    rw [translateWithReport_of_filled filled]
    exact accounts_of_records (Report.records_recordFrom _ 1 _)
  · intro empty
    rw [translateWithReport, if_pos empty, length_lines]

/-- A document with lines of every kind, the last of them empty, and one without a dictionary. -/
theorem translateWithReport_accounts_stone :
    (Index.build [⟨"Stone", "Stein", ""⟩]).isEmpty = false ∧
    (translateWithReport (.build [⟨"Stone", "Stein", ""⟩]) .fr
        "/ac Stone <t>\nhello\n/ac Aero\n/p go\n/ac \"Stone\n").2.Accounts
      (.build [⟨"Stone", "Stein", ""⟩]) .fr
      "/ac Stone <t>\nhello\n/ac Aero\n/p go\n/ac \"Stone\n"
      (translateWithReport (.build [⟨"Stone", "Stein", ""⟩]) .fr
        "/ac Stone <t>\nhello\n/ac Aero\n/p go\n/ac \"Stone\n").1 ∧
    (Index.build []).isEmpty = true ∧
    translateWithReport (.build []) .fr "/ac Stone\n" =
      ("/ac Stone\n", { dictionaryEmpty := true, lines := 2 }) := by
  have filled : (Index.build [⟨"Stone", "Stein", ""⟩]).isEmpty = false := by
    rw [← Bool.not_eq_true, Index.isEmpty_build_iff]
    intro nameless
    exact absurd (nameless _ List.mem_cons_self .en) (by decide)
  have empty : (Index.build []).isEmpty = true := by decide
  exact ⟨filled, (translateWithReport_accounts _ .fr _).1 filled, empty,
    (translateWithReport_accounts _ .fr "/ac Stone\n").2 empty⟩

end Phrasebook
