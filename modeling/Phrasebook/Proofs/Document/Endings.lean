import Mathlib.Data.List.Forall2
import Phrasebook.Proofs.Document.LineCount
import Phrasebook.Proofs.Json.Fields
import Phrasebook.Session.Handle

/-! # Carriage returns

In a document whose lines end in a carriage return and a newline, the carriage return is space at
the end of a line. A line that is not translated keeps the space around it, and a line that is set
anew has none: so the carriage returns that are left tell which lines were not translated.
-/

namespace Phrasebook

open Text

/-- The text ends in a carriage return. -/
def EndsInReturn (text : String) : Prop :=
  text.toList.getLast? = some '\r'

instance (text : String) : Decidable (EndsInReturn text) :=
  inferInstanceAs (Decidable (_ = _))

/-- Line by line, but for the last, `out` has a carriage return where `text` is not translated, and
    none where it is. -/
def ReturnsUntranslated (index : Index) (target : Language) (text out : String) : Prop :=
  List.Forall₂
    (fun line outLine => EndsInReturn outLine ↔
      (translateLine index target line).2.isTranslated = false)
    (lines text).dropLast (lines out).dropLast

/-! ## Lines -/

theorem not_endsInReturn_of_trimmed {text : List Char} (trimmed : Trimmed isSpace text) :
    ¬ EndsInReturn (String.ofList text) := by
  intro returns
  rw [EndsInReturn, String.toList_ofList] at returns
  exact absurd (trimmed.ends '\r' returns) (by decide)

theorem endsInReturn_translateLine_iff {line : String} (returns : EndsInReturn line)
    (index : Index) (target : Language) :
    EndsInReturn (translateLine index target line).1 ↔
      (translateLine index target line).2.isTranslated = false := by
  rcases translateLine_cases index target line with ⟨reading, entry, reads, known⟩ | untouched
  · have ends := (trimmed_trimBoth isSpace line.toList).ends
    have filled := reads.replacement_ne_nil entry target
    rw [translateLine_of_reading target reads known]
    exact iff_of_false (not_endsInReturn_of_trimmed (reads.trimmed_rewritten ends filled)) nofun
  · rw [untouched.2]
    exact iff_of_true returns untouched.1

/-! ## Documents -/

theorem returnsUntranslated_translateDocument {index : Index} {target : Language} {text : String}
    (keeps : index.KeepsLines target)
    (returns : ∀ line ∈ (lines text).dropLast, EndsInReturn line) :
    ReturnsUntranslated index target text (translateDocument index target text) := by
  rw [ReturnsUntranslated, keeps.lines_eq_map, ← List.map_dropLast, List.forall₂_map_right_iff,
    List.forall₂_same]
  intro line member
  exact endsInReturn_translateLine_iff (returns line member) index target

/-! ## Files -/

namespace Session

variable {session : Session} {disk : Disk} {path : String} {label : Option String}
  {decoded : Decoded}

theorem value_answer_file (asked : Option Language)
    (read : ((session.readFile disk path).bind fun bytes => decodeBytes bytes label) =
      .ok decoded) :
    (session.answer disk (.file path asked label)).value =
      .ok (session.fileAnswer (asked.getD session.target) decoded) := by
  unfold answer
  dsimp only
  rw [read]

theorem text_fileAnswer (session : Session) (target : Language) (decoded : Decoded) :
    (session.fileAnswer target decoded).field? "text" =
      some (.string (translateDocument session.index target decoded.text)) := by
  rw [fileAnswer, Json.field?_ofFields]
  simp [Json.lookup_cons_ite]

end Session

/-- A line that ends in a carriage return keeps it exactly if it is not translated. So, if no name
    has a newline, the lines of a document or a file that all end in carriage returns, the last
    apart, come back with one exactly where they were not translated. -/
theorem carriage_return_iff_untranslated (entries : List Entry) (target : Language) :
    (∀ line, EndsInReturn line →
      (EndsInReturn (translateLine (.build entries) target line).1 ↔
        (translateLine (.build entries) target line).2.isTranslated = false)) ∧
    ((∀ entry ∈ entries, ∀ name ∈ entry.names, '\n' ∉ name.toList) →
      (∀ text, (∀ line ∈ (lines text).dropLast, EndsInReturn line) →
        ReturnsUntranslated (.build entries) target text
          (translateDocument (.build entries) target text)) ∧
      ∀ (session : Session) (disk : Disk) path asked label decoded,
        session.index = .build entries → asked.getD session.target = target →
        ((session.readFile disk path).bind fun bytes => decodeBytes bytes label) = .ok decoded →
        (∀ line ∈ (lines decoded.text).dropLast, EndsInReturn line) →
        ∃ answer out, (session.answer disk (.file path asked label)).value = .ok answer ∧
          answer.field? "text" = some (.string out) ∧
          ReturnsUntranslated (.build entries) target decoded.text out) := by
  constructor
  · intro line returns
    exact endsInReturn_translateLine_iff returns _ target
  · intro unbroken
    have keeps := Index.KeepsLines.of_unbroken unbroken target
    constructor
    · intro text returns
      exact returnsUntranslated_translateDocument keeps returns
    · rintro session disk path asked label decoded index rfl read returns
      refine ⟨_, translateDocument (.build entries) (asked.getD session.target) decoded.text,
        Session.value_answer_file asked read, ?_,
        returnsUntranslated_translateDocument keeps returns⟩
      rw [Session.text_fileAnswer, index]

/-- The lines of such a document end in two ways afterwards: a carriage return stays on the line
    that is passed through. -/
theorem carriage_return_iff_untranslated_mixed :
    (∀ entry ∈ ([⟨"Stone", "Stein", "Pierre"⟩] : List Entry), ∀ name ∈ entry.names,
      '\n' ∉ name.toList) ∧
    (∀ line ∈ (lines "/echo Stone\r\n/ac Stone\r\n").dropLast, EndsInReturn line) ∧
    ReturnsUntranslated (.build [⟨"Stone", "Stein", "Pierre"⟩]) .fr
      "/echo Stone\r\n/ac Stone\r\n"
      (translateDocument (.build [⟨"Stone", "Stein", "Pierre"⟩]) .fr
        "/echo Stone\r\n/ac Stone\r\n") := by
  have unbroken : ∀ entry ∈ ([⟨"Stone", "Stein", "Pierre"⟩] : List Entry), ∀ name ∈ entry.names,
      '\n' ∉ name.toList := by decide
  have returns : ∀ line ∈ (lines "/echo Stone\r\n/ac Stone\r\n").dropLast, EndsInReturn line := by
    decide
  exact ⟨unbroken, returns,
    ((carriage_return_iff_untranslated _ .fr).2 unbroken).1 _ returns⟩

/-- The carriage return of a line that is translated is lost. -/
theorem translateLine_drops_return :
    EndsInReturn "/ac Stone\r" ∧
    translateLine (.build [⟨"Stone", "Stein", "Pierre"⟩]) .fr "/ac Stone\r" =
      ("/ac Pierre", .translated "Stone" "Pierre" false) ∧
    ¬ EndsInReturn "/ac Pierre" ∧
    translateDocument (.build [⟨"Stone", "Stein", "Pierre"⟩]) .fr
      "/echo Stone\r\n/ac Stone\r\n" = "/echo Stone\r\n/ac Pierre\n" := by
  have source : Line.read "/ac Stone\r".toList =
      .named ⟨"/ac".toList, ⟨[' '], "Stone".toList, false, [], []⟩⟩ := by decide
  have known : (Index.build [⟨"Stone", "Stein", "Pierre"⟩]).lookup
      (String.ofList "Stone".toList) = some ⟨"Stone", "Stein", "Pierre"⟩ := by
    rw [Index.lookup_build]
    decide
  have dropped : translateLine (.build [⟨"Stone", "Stein", "Pierre"⟩]) .fr "/ac Stone\r" =
      ("/ac Pierre", .translated "Stone" "Pierre" false) := by
    rw [translateLine_of_named .fr source known]
    decide
  have parted : lines "/echo Stone\r\n/ac Stone\r\n" = ["/echo Stone\r", "/ac Stone\r", ""] := by
    decide
  refine ⟨by decide, dropped, by decide, ?_⟩
  rw [translateDocument_eq, parted, List.map_cons, List.map_cons, dropped]
  rfl

end Phrasebook
