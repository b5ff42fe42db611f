import Phrasebook.Proofs.Document.Linewise
import Phrasebook.Proofs.Index.Collisions
import Phrasebook.Proofs.Index.LastWrite

/-! # The order of a dictionary

Where entries contest a key, the last of them wins it, and so the order of the dictionary decides
what is found. The report of collisions says just whether it does: where it has nothing to tell,
entries may stand in any order, and where it tells of a key, each of the entries that contest it is
found under it in some order.
-/

namespace Phrasebook

theorem mem_writes_perm {entries other : List Entry} (reordered : other.Perm entries)
    {key : String} {entry : Entry} :
    (key, entry) ∈ writes other ↔ (key, entry) ∈ writes entries := by
  rw [mem_writes, mem_writes, reordered.mem_iff]

theorem Collision.ofEntries_perm {entries other : List Entry} (reordered : other.Perm entries) :
    ofEntries other = [] ↔ ofEntries entries = [] := by
  simp only [ofEntries_eq_nil_iff, mem_writes_perm reordered]

namespace Index

theorem lookup_build_perm {entries other : List Entry}
    (uncontested : Collision.ofEntries entries = []) (reordered : other.Perm entries)
    (name : String) : (build other).lookup name = (build entries).lookup name := by
  cases found : (build entries).lookup name with
  | none =>
      rw [lookup_build_eq_none_iff] at found ⊢
      exact fun entry member => found entry (reordered.mem_iff.mp member)
  | some entry =>
      have wrote := (mem_writes_perm reordered).mpr (written_of_lookup found)
      exact lookup_of_mem_writes ((Collision.ofEntries_perm reordered).mpr uncontested) wrote

/-- An entry at the end of a dictionary wins all its keys. -/
theorem lookup_build_last {entry : Entry} {name : String} (called : key name ∈ entry.keys)
    (before : List Entry) : (build (before ++ [entry])).lookup name = some entry := by
  rw [lookup_build_append, lookup_build_singleton, if_pos called, Option.some_or]

/-- Where no order changes what is found, each entry is found under all its keys: it is when it
    stands at the end. -/
theorem lookup_of_order_irrelevant {entries : List Entry}
    (alike : ∀ other : List Entry, other.Perm entries → ∀ name,
      (build other).lookup name = (build entries).lookup name)
    {entry : Entry} (member : entry ∈ entries) {name : String} (called : key name ∈ entry.keys) :
    (build entries).lookup name = some entry := by
  have atEnd : (entries.erase entry ++ [entry]).Perm entries :=
    (List.perm_append_singleton entry _).trans (List.perm_cons_erase member).symm
  rw [← alike _ atEnd name]
  exact lookup_build_last called _

theorem uncontested_of_order_irrelevant {entries : List Entry}
    (alike : ∀ other : List Entry, other.Perm entries → ∀ name,
      (build other).lookup name = (build entries).lookup name) :
    Collision.ofEntries entries = [] := by
  refine Collision.ofEntries_eq_nil_iff.mpr fun written one other wrote wroteToo => ?_
  obtain ⟨member, called⟩ := mem_writes.mp wrote
  obtain ⟨memberToo, calledToo⟩ := mem_writes.mp wroteToo
  -- A key is the key of the name that wrote it, so it can be looked up.
  obtain ⟨language, -, rfl⟩ := Entry.mem_keys.mp called
  have found := lookup_of_order_irrelevant alike member called
  rw [lookup_of_order_irrelevant alike memberToo calledToo] at found
  exact (Option.some.inj found).symm

end Index

/-- A line sees nothing of an index but its look-ups. -/
theorem translateLine_congr {one other : Index}
    (alike : ∀ name, one.lookup name = other.lookup name) (target : Language) (line : String) :
    translateLine one target line = translateLine other target line := by
  unfold translateLine
  simp only [alike]

theorem translateDocument_congr {one other : Index}
    (alike : ∀ name, one.lookup name = other.lookup name) (target : Language) (text : String) :
    translateDocument one target text = translateDocument other target text := by
  simp only [translateDocument_eq, translateLine_congr alike]

/-- There are no collisions exactly when the order of the entries does not matter to any look-up;
    it does not matter to any document then either. -/
theorem uncontested_iff_order_irrelevant (entries : List Entry) :
    (Collision.ofEntries entries = [] ↔
      ∀ other : List Entry, other.Perm entries → ∀ name,
        (Index.build other).lookup name = (Index.build entries).lookup name) ∧
    (Collision.ofEntries entries = [] →
      ∀ other : List Entry, other.Perm entries → ∀ target text,
        translateDocument (.build other) target text =
          translateDocument (.build entries) target text) :=
  ⟨⟨fun uncontested _ reordered => Index.lookup_build_perm uncontested reordered,
      Index.uncontested_of_order_irrelevant⟩,
    fun uncontested _ reordered =>
      translateDocument_congr (Index.lookup_build_perm uncontested reordered)⟩

/-- An entry given twice is no collision, and the entries may stand the other way round. Two entries
    that share a German name are one, and some order shows it. -/
theorem uncontested_iff_order_irrelevant_shield :
    Collision.ofEntries
        [⟨"Stone", "Stein", "Pierre"⟩, ⟨"Cure", "", "Soin"⟩, ⟨"Stone", "Stein", "Pierre"⟩] = [] ∧
    translateDocument
        (.build [⟨"Cure", "", "Soin"⟩, ⟨"Stone", "Stein", "Pierre"⟩, ⟨"Stone", "Stein", "Pierre"⟩])
        .fr "/ac cure\n/ac Stein <t>" =
      translateDocument
        (.build [⟨"Stone", "Stein", "Pierre"⟩, ⟨"Cure", "", "Soin"⟩, ⟨"Stone", "Stein", "Pierre"⟩])
        .fr "/ac cure\n/ac Stein <t>" ∧
    ¬∀ other : List Entry,
      other.Perm [⟨"Shield", "Schild", "Bouclier"⟩, ⟨"Protect", "Schild", "Protection"⟩] →
      ∀ name, (Index.build other).lookup name =
        (Index.build [⟨"Shield", "Schild", "Bouclier"⟩,
          ⟨"Protect", "Schild", "Protection"⟩]).lookup name := by
  have uncontested : Collision.ofEntries
      [⟨"Stone", "Stein", "Pierre"⟩, ⟨"Cure", "", "Soin"⟩, ⟨"Stone", "Stein", "Pierre"⟩] = [] := by
    decide
  refine ⟨uncontested, ?_, fun alike => ?_⟩
  · exact (uncontested_iff_order_irrelevant _).2 uncontested _ (by decide) .fr _
  · have contested := (uncontested_iff_order_irrelevant _).1.mpr alike
    revert contested
    decide

end Phrasebook
