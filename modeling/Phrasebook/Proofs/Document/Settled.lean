import Phrasebook.Proofs.Document.LineCount
import Phrasebook.Proofs.Translation.Retargeting

/-! # Translating a document again

A line is settled in a language if translating it changes nothing. In a dictionary without
collisions and without reserved characters in its names every translated line is settled: its name
leads back to the entry that it is from, and is written for that entry once more, in quotes where it
stood in quotes. A document of settled lines is left as it is, so the second translation of a
document changes nothing.
-/

namespace Phrasebook

open Text

/-- Translating the line does not change it. -/
def Settled (index : Index) (target : Language) (line : String) : Prop :=
  (translateLine index target line).1 = line

namespace Reading

theorem rewritten_rewritten (reading : Reading) (name : List Char) :
    (reading.rewritten name).rewritten name = reading.rewritten name := by
  simp [rewritten]

/-- What was written for an entry is what is written for it again. For an entry without a name in
    the language, that is the name that stood on the line. -/
theorem replacement_rewritten (reading : Reading) (entry : Entry) (target : Language) :
    (reading.rewritten (reading.replacement entry target).toList).replacement entry target =
      reading.replacement entry target := by
  by_cases named : entry.name target = ""
  · simp only [Spells.replacement_of_eq named, rewritten, String.toList_ofList]
  · simp only [Spells.replacement_of_ne named]

end Reading

theorem settled_translateLine {entries : List Entry} (retargetable : Retargetable entries)
    (target : Language) (line : String) :
    Settled (.build entries) target (translateLine (.build entries) target line).1 := by
  rcases translateLine_cases (.build entries) target line with
    ⟨reading, entry, reads, known⟩ | untouched
  · have spells : Spells entries entry reading line := ⟨reads, known⟩
    have again := spells.translateLine retargetable target
    rw [Settled, translateLine_of_reading target again.reads again.known,
      reading.replacement_rewritten, reading.rewritten_rewritten,
      translateLine_of_reading target reads known]
  · rw [Settled, untouched.2, untouched.2]

theorem translateDocument_of_settled {index : Index} {target : Language} {text : String}
    (settled : ∀ line ∈ lines text, Settled index target line) :
    translateDocument index target text = text := by
  have kept : (lines text).map (fun line => (translateLine index target line).1) = lines text :=
    (List.map_congr_left settled).trans (List.map_id' _)
  rw [translateDocument_eq, kept, ofLines_lines]

/-- In a dictionary without collisions, and without quotes, brackets and newlines in its names, a
    document that was translated is not changed by translating it again. -/
theorem translateDocument_idempotent {entries : List Entry}
    (uncontested : Collision.ofEntries entries = [])
    (plain : ∀ entry ∈ entries, ∀ name ∈ entry.names,
      '"' ∉ name.toList ∧ '<' ∉ name.toList ∧ '\n' ∉ name.toList)
    (target : Language) (text : String) :
    translateDocument (.build entries) target (translateDocument (.build entries) target text) =
      translateDocument (.build entries) target text := by
  have retargetable : Retargetable entries := by
    refine ⟨uncontested, ?_⟩
    intro entry member name listed
    obtain ⟨noQuote, noBracket, -⟩ := plain entry member name listed
    exact ⟨noQuote, noBracket⟩
  have keeps : (Index.build entries).KeepsLines target := by
    apply Index.KeepsLines.of_unbroken
    intro entry member name listed
    exact (plain entry member name listed).2.2
  apply translateDocument_of_settled
  rw [keeps.lines_eq_map]
  intro line member
  obtain ⟨source, -, rfl⟩ := List.mem_map.mp member
  exact settled_translateLine retargetable target source

/-- One name gets quotes for the space in it, and another is kept for want of one in the language
    and keeps its quotes. -/
theorem translateDocument_idempotent_moon :
    Collision.ofEntries [⟨"Stone", "Stein", "Pierre de lune"⟩, ⟨"Cure Wounds", "Vita", ""⟩] = [] ∧
    translateDocument
        (.build [⟨"Stone", "Stein", "Pierre de lune"⟩, ⟨"Cure Wounds", "Vita", ""⟩]) .fr
        (translateDocument
          (.build [⟨"Stone", "Stein", "Pierre de lune"⟩, ⟨"Cure Wounds", "Vita", ""⟩]) .fr
          "/ac  STEIN<t>\r\n/ac cure wounds <t>\nplain") =
      translateDocument
        (.build [⟨"Stone", "Stein", "Pierre de lune"⟩, ⟨"Cure Wounds", "Vita", ""⟩]) .fr
        "/ac  STEIN<t>\r\n/ac cure wounds <t>\nplain" := by
  have uncontested :
      Collision.ofEntries [⟨"Stone", "Stein", "Pierre de lune"⟩, ⟨"Cure Wounds", "Vita", ""⟩] =
        [] := by decide
  exact ⟨uncontested, translateDocument_idempotent uncontested (by decide) .fr _⟩

end Phrasebook
