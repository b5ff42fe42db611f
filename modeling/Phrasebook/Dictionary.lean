import Phrasebook.Deduplication
import Phrasebook.Disk.Replace
import Phrasebook.Encoding.Decode
import Phrasebook.Journal
import Phrasebook.Json.Parser

/-! # Dictionaries as documents

A dictionary is kept as a JSON array of entries. It is read from text in UTF-8, whatever is
malformed in it replaced, and written in place of the file that was there.
-/

namespace Phrasebook

/-- What the journal is told about a decoded text. -/
def Decoded.notes (decoded : Decoded) : List Note :=
  if decoded.hadErrors then [⟨.warn, "[encoding] lossy decode as " ++ decoded.encoding.name⟩]
  else []

namespace Dictionary

/-- The entries in the text of a dictionary. `origin` says in messages where the text is from. -/
def ofText (origin text : String) : Except Failure (List Entry) :=
  match Json.parse text with
  | .error error => .error (.json origin error)
  | .ok (.array items) =>
      match items.mapM Entry.ofJson with
      | .ok entries => .ok entries
      | .error reason => .error (.json origin reason.unplaced)
  | .ok _ => .error (.notAList origin)

/-- The entries in the file of a dictionary. -/
def ofFile (disk : Disk) (path : Disk.Path) : Noted (Except Failure (List Entry)) :=
  match disk.read path with
  | .error fault => { value := .error (.read path fault) }
  | .ok bytes =>
      let decoded := Encoding.utf8.decode bytes
      { value := ofText path.text decoded.text, notes := decoded.notes }

def save (disk : Disk) (path : Disk.Path) (entries : List Entry) : Disk.Outcome :=
  disk.replace path (Text.encodeUtf8 (Entry.document entries).indented.toList)

/-- An account of the deduplication of a file. -/
structure DedupeReport where
  inputEntries : Nat
  outputEntries : Nat
  output : Disk.Path
  deriving Repr, DecidableEq

def DedupeReport.toJson (report : DedupeReport) : Json :=
  Json.ofFields
    [ ("input_entries", Json.ofNat report.inputEntries),
      ("output_entries", Json.ofNat report.outputEntries),
      ("output", .string report.output.text) ]

def DedupeReport.note (report : DedupeReport) : Note :=
  ⟨.info, "[dictionary] deduplicated " ++ toString report.inputEntries ++ " -> " ++
    toString report.outputEntries ++ " entries into " ++ report.output.text⟩

/-- What became of an effort that may have changed files. -/
structure FileChange (α : Type) where
  result : Except Failure α
  disk : Disk
  notes : List Note := []

/-- Write the entries of one file, deduplicated, to another. -/
def dedupeFile (disk : Disk) (input output : Disk.Path) : FileChange DedupeReport :=
  let loaded := ofFile disk input
  match loaded.value with
  | .error failure => { result := .error failure, disk := disk, notes := loaded.notes }
  | .ok entries =>
      let kept := dedupe entries
      let saved := save disk output kept
      match saved.failure with
      | some failure => { result := .error failure, disk := saved.disk, notes := loaded.notes }
      | none =>
          let report : DedupeReport := ⟨entries.length, kept.length, output⟩
          { result := .ok report, disk := saved.disk, notes := loaded.notes ++ [report.note] }

end Dictionary
end Phrasebook
