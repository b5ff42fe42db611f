import Phrasebook.Translation

/-! # Translating a document

A document is translated line by line. Lines are what stands between newline characters, so a text
has one line more than it has newlines.
-/

namespace Phrasebook

namespace Text

def lines (text : String) : List String :=
  (text.toList.splitOn '\n').map String.ofList

def ofLines (lines : List String) : String :=
  String.ofList (['\n'].intercalate (lines.map String.toList))

@[simp]
theorem ofLines_lines (text : String) : ofLines (lines text) = text := by
  simp [ofLines, lines, Function.comp_def, List.intercalate_splitOn]

end Text

/-- A line of a report: its number, from one, and what became of it. -/
structure ReportItem where
  lineNumber : Nat
  outcome : LineOutcome
  deriving Repr, DecidableEq

/-- An account of a document's translation. Only lines with a command that takes a name have an
    item. -/
structure Report where
  dictionaryEmpty : Bool := false
  lines : Nat := 0
  translated : Nat := 0
  unknown : Nat := 0
  items : List ReportItem := []
  deriving Repr, DecidableEq

def translateDocument (index : Index) (target : Language) (text : String) : String :=
  if index.isEmpty then text
  else Text.ofLines ((Text.lines text).map fun line => (translateLine index target line).1)

/-- The report with one more line in it. A line without a command that takes a name is passed
    over. -/
def Report.record (report : Report) (lineNumber : Nat) (outcome : LineOutcome) : Report :=
  let listed := { report with items := report.items ++ [⟨lineNumber, outcome⟩] }
  match outcome with
  | .notCommand | .passThrough => report
  | .noName => listed
  | .unknownName _ => { listed with unknown := report.unknown + 1 }
  | .translated .. => { listed with translated := report.translated + 1 }

/-- The report with successive lines in it, the first of which has the given number. -/
def Report.recordFrom (lineNumber : Nat) (report : Report) : List LineOutcome → Report
  | [] => report
  | outcome :: rest => recordFrom (lineNumber + 1) (report.record lineNumber outcome) rest

/-- Translate a document into a language, with an account of it. -/
def translateWithReport (index : Index) (target : Language) (text : String) : String × Report :=
  let lines := Text.lines text
  let report : Report := { lines := lines.length }
  if index.isEmpty then (text, { report with dictionaryEmpty := true })
  else
    let results := lines.map (translateLine index target)
    (Text.ofLines (results.map Prod.fst), report.recordFrom 1 (results.map Prod.snd))

namespace Report

def toJson (report : Report) : Json :=
  let item (line : ReportItem) : Json :=
    Json.ofFields [("line_number", Json.ofNat line.lineNumber), ("outcome", line.outcome.toJson)]
  Json.ofFields
    [ ("dictionary_empty", .bool report.dictionaryEmpty),
      ("lines", Json.ofNat report.lines),
      ("translated", Json.ofNat report.translated),
      ("unknown", Json.ofNat report.unknown),
      ("items", .array (report.items.map item)) ]

end Report
end Phrasebook
