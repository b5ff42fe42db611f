import Phrasebook.Dictionary
import Phrasebook.Proofs.Dictionary.Deduplication
import Phrasebook.Proofs.Disk.Again
import Phrasebook.Proofs.Encoding.Marks
import Phrasebook.Proofs.Json.Rereading

/-! # Dictionary files

What is saved as a dictionary is loaded again, whatever characters the names have: the reader undoes
the escapes, and no text of a dictionary starts with a byte order mark. So deduplicating a file is
deduplicating the entries in it.
-/

namespace Phrasebook

/-! ## Documents of entries -/

theorem Entry.ofJson_toJson (entry : Entry) : Entry.ofJson entry.toJson = .ok entry := rfl

theorem Entry.mapM_ofJson (entries : List Entry) :
    (entries.map Entry.toJson).mapM Entry.ofJson = .ok entries := by
  induction entries with
  | nil => rfl
  | cons entry rest ih =>
      rw [List.map_cons, List.mapM_cons, Entry.ofJson_toJson, ih]
      rfl

theorem Entry.rereads (depth : Nat) (entry : Entry) :
    Json.Rereads (depth + 2) (.object entry.fields) entry.toJson :=
  Json.rereads_object fun language _ => Json.rereads_string (depth + 1) (entry.name language)

theorem Entry.parse_document (entries : List Entry) :
    Json.parse (Entry.document entries).indented = .ok (.array (entries.map Entry.toJson)) := by
  -- A list of objects of texts opens two levels, far fewer than are allowed.
  have rereads : Json.Rereads (125 + 3) (Entry.document entries)
      (.array (entries.map Entry.toJson)) :=
    Json.rereads_array fun entry _ => entry.rereads 125
  exact Json.parse_indented rereads

namespace Dictionary

variable {disk : Disk} {path input output : Disk.Path} {entries : List Entry}

theorem ofText_document (origin : String) (entries : List Entry) :
    ofText origin (Entry.document entries).indented = .ok entries := by
  unfold ofText
  rw [Entry.parse_document]
  simp only [Entry.mapM_ofJson]

/-! ## Saving and loading -/

/-- The bytes that a file of entries holds. -/
def bytesOf (entries : List Entry) : Disk.Bytes :=
  Text.encodeUtf8 (Entry.document entries).indented.toList

/-- The text of a dictionary starts with a bracket, so its bytes start with no mark. -/
theorem decode_bytesOf (entries : List Entry) :
    Encoding.utf8.decode (bytesOf entries) =
      ⟨(Entry.document entries).indented, .utf8, false⟩ := by
  have bracket : (Entry.document entries).indented.toList.head? = some '[' := by
    rw [Json.indented, String.toList_ofList]
    cases entries <;> rfl
  have unmarked : (Entry.document entries).indented.toList.head? ≠ some Encoding.markChar := by
    rw [bracket]
    decide
  rw [bytesOf, Encoding.decode_encodeUtf8 unmarked, String.ofList_toList]

theorem ofFile_of_read (read : disk.read path = .ok (bytesOf entries)) :
    ofFile disk path = { value := .ok entries } := by
  unfold ofFile
  rw [read]
  simp only [decode_bytesOf, ofText_document, Decoded.notes]
  rfl

theorem read_save (saved : (save disk path entries).failure = none) :
    (save disk path entries).disk.read path = .ok (bytesOf entries) :=
  Disk.read_replace_of_done saved

theorem ofFile_save (saved : (save disk path entries).failure = none) :
    (ofFile (save disk path entries).disk path).value = .ok entries := by
  rw [ofFile_of_read (read_save saved)]

/-! ## Deduplicating files -/

theorem dedupeFile_of_error {failure : Failure}
    (unread : (ofFile disk input).value = .error failure) :
    (dedupeFile disk input output).result = .error failure ∧
      (dedupeFile disk input output).disk = disk := by
  simp only [dedupeFile, unread, and_self]

/-- The account of the deduplication of some entries. -/
def reportOn (loaded : List Entry) (output : Disk.Path) : DedupeReport :=
  ⟨loaded.length, (dedupe loaded).length, output⟩

theorem dedupeFile_of_ok (output : Disk.Path) {loaded : List Entry}
    (read : (ofFile disk input).value = .ok loaded) :
    (dedupeFile disk input output).disk = (save disk output (dedupe loaded)).disk ∧
      (dedupeFile disk input output).result =
        match (save disk output (dedupe loaded)).failure with
        | none => .ok (reportOn loaded output)
        | some failure => .error failure := by
  simp only [dedupeFile, read]
  cases (save disk output (dedupe loaded)).failure with
  | none => exact ⟨rfl, rfl⟩
  | some failure => exact ⟨rfl, rfl⟩

theorem saved_of_dedupeFile {report : DedupeReport}
    (done : (dedupeFile disk input output).result = .ok report) :
    ∃ loaded, (ofFile disk input).value = .ok loaded ∧
      (save disk output (dedupe loaded)).failure = none ∧ report = reportOn loaded output := by
  cases read : (ofFile disk input).value with
  | error failure =>
      rw [(dedupeFile_of_error read).1] at done
      cases done
  | ok loaded =>
      rw [(dedupeFile_of_ok output read).2] at done
      cases saved : (save disk output (dedupe loaded)).failure with
      | some failure =>
          simp only [saved] at done
          cases done
      | none =>
          simp only [saved, Except.ok.injEq] at done
          exact ⟨loaded, rfl, saved, done.symm⟩

/-- Entries that are saved are loaded as they were. So a file that a deduplication is done into
    holds what is left of the entries that it loaded, and another deduplication of that file is
    done too and leaves it byte for byte. When nothing can be loaded, the disk is not touched. -/
theorem files_round_trip (disk : Disk) (path input output : Disk.Path) (entries : List Entry) :
    ((save disk path entries).failure = none →
      (ofFile (save disk path entries).disk path).value = .ok entries) ∧
    (∀ report, (dedupeFile disk input output).result = .ok report →
      let after := (dedupeFile disk input output).disk
      let again := dedupeFile after output output
      ∃ loaded content,
        (ofFile disk input).value = .ok loaded ∧
        (ofFile after output).value = .ok (dedupe loaded) ∧
        report = ⟨loaded.length, (dedupe loaded).length, output⟩ ∧
        after.read output = .ok content ∧
        again.result = .ok ⟨(dedupe loaded).length, (dedupe loaded).length, output⟩ ∧
        again.disk.read output = .ok content) ∧
    (∀ failure, (ofFile disk input).value = .error failure →
      (dedupeFile disk input output).result = .error failure ∧
        (dedupeFile disk input output).disk = disk) := by
  refine ⟨ofFile_save, ?_, fun failure => dedupeFile_of_error⟩
  intro report done after again
  obtain ⟨loaded, read, saved, rfl⟩ := saved_of_dedupeFile done
  have written : after = (save disk output (dedupe loaded)).disk := (dedupeFile_of_ok output read).1
  have kept : (ofFile after output).value = .ok (dedupe loaded) := by
    rw [written, ofFile_save saved]
  -- Nothing is left to drop, so the second time the same entries are saved.
  have savedAgain : (save after output (dedupe (dedupe loaded))).failure = none := by
    rw [written]
    exact Disk.replace_again saved _
  obtain ⟨rewritten, answered⟩ := dedupeFile_of_ok output kept
  refine ⟨loaded, bytesOf (dedupe loaded), read, kept, rfl, ?_, ?_, ?_⟩
  · rw [written, read_save saved]
  · rw [answered, savedAgain]
    simp only [reportOn, dedupe_dedupe]
  · rw [rewritten, read_save savedAgain, dedupe_dedupe]

/-- Names with marks and signs of every kind, in a file that is deduplicated into another. -/
theorem files_round_trip_moon :
    let moon : Entry := ⟨"\uFEFFMoon", "\"Mond\"", "lune\n"⟩
    let entries : List Entry := [moon, ⟨"", "Stern\x01", ""⟩, ⟨"\uFEFFmoon ", "\\", "é"⟩]
    let disk : Disk :=
      { nodes := [(["words.json"], .file (bytesOf entries))], workingDirectory := [] }
    let kept : Disk.Path := ⟨"kept/words.json"⟩
    (ofFile (save disk ⟨"words.json"⟩ entries).disk ⟨"words.json"⟩).value = .ok entries ∧
      (ofFile (dedupeFile disk ⟨"words.json"⟩ kept).disk kept).value = .ok [moon] ∧
      (dedupeFile (dedupeFile disk ⟨"words.json"⟩ kept).disk kept kept).disk.read kept =
        (dedupeFile disk ⟨"words.json"⟩ kept).disk.read kept ∧
      (dedupeFile disk ⟨"none.json"⟩ kept).disk = disk := by
  intro moon entries disk kept
  have two : dedupe entries = [moon] := by decide +kernel
  have read : (ofFile disk ⟨"words.json"⟩).value = .ok entries := by
    rw [ofFile_of_read (show disk.read ⟨"words.json"⟩ = .ok (bytesOf entries) by decide +kernel)]
  have done : (dedupeFile disk ⟨"words.json"⟩ kept).result = .ok (reportOn entries kept) := by
    have saved : (save disk kept (dedupe entries)).failure = none := by
      rw [two]
      decide +kernel
    rw [(dedupeFile_of_ok kept read).2, saved]
  have unread : (ofFile disk ⟨"none.json"⟩).value = .error (.read ⟨"none.json"⟩ .notFound) := by
    decide +kernel
  obtain ⟨saved, deduplicated, -⟩ :=
    files_round_trip disk ⟨"words.json"⟩ ⟨"words.json"⟩ kept entries
  obtain ⟨loaded, content, same, left, -, written, -, rewritten⟩ := deduplicated _ done
  obtain rfl := Except.ok.inj (read.symm.trans same)
  refine ⟨saved (by decide +kernel), two ▸ left, rewritten.trans written.symm, ?_⟩
  obtain ⟨-, -, untouched⟩ :=
    files_round_trip disk ⟨"words.json"⟩ ⟨"none.json"⟩ kept entries
  exact (untouched _ unread).2

end Dictionary
end Phrasebook
