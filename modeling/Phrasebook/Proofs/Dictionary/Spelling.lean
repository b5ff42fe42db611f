import Mathlib.Data.List.Nodup
import Phrasebook.Proofs.Dictionary.Firsts
import Phrasebook.Proofs.Index.LastWrite
import Phrasebook.Proofs.Text.Lowercase

/-! # Names with white space around them

Deduplication takes a name with white space around it for the same as the name without; an index
does not. So the entry that stays of an English name may be one that the bare name does not lead to,
while the entry that it did lead to is dropped. Whether a name can still be looked up depends on how
the first entry spells it, unless it is a name in another language too.
-/

namespace Phrasebook

theorem mem_of_mem_dedupe {entries : List Entry} {entry : Entry}
    (kept : entry ∈ dedupe entries) : entry ∈ entries := by
  rw [dedupe_eq_filter] at kept
  obtain ⟨numbered, listed, rfl⟩ := List.mem_map.mp kept
  have found := List.mem_zipIdx_iff_getElem?.mp (List.mem_filter.mp listed).1
  exact List.mem_of_getElem? found

theorem mem_dedupe_of_first {before after : List Entry} {first : Entry}
    (named : first.englishKey ≠ "")
    (fresh : ∀ earlier ∈ before, earlier.englishKey ≠ first.englishKey) :
    first ∈ dedupe (before ++ first :: after) := by
  have unseen : first.englishKey ∉ before.map Entry.englishKey := by
    intro seen
    obtain ⟨earlier, member, same⟩ := List.mem_map.mp seen
    exact fresh earlier member same
  rw [dedupe_append]
  simp only [dedupeFrom]
  rw [if_neg (not_or.mpr ⟨named, unseen⟩)]
  exact List.mem_append_right _ List.mem_cons_self

/-- Of one English name, one entry is kept. -/
theorem eq_of_mem_dedupe {entries : List Entry} {one other : Entry} (kept : one ∈ dedupe entries)
    (keptToo : other ∈ dedupe entries) (same : one.englishKey = other.englishKey) : one = other :=
  List.inj_on_of_nodup_map
    (List.pairwise_map.mpr (isDeduped_dedupeFrom [] entries).distinct) kept keptToo same

namespace Index

theorem lookup_build_isSome_iff {entries : List Entry} {name : String} :
    ((build entries).lookup name).isSome ↔ ∃ entry ∈ entries, entry.IsCalled name := by
  rw [← Option.ne_none_iff_isSome, ne_eq, lookup_build_eq_none_iff]
  simp only [not_forall, not_not, exists_prop]

/-- A bare name leads to an entry by its English name if that is bare too. -/
theorem lowercase_en_eq_iff {entry : Entry} {name : String} (bare : Text.trimWhite name = name) :
    Text.lowercase entry.en = Text.lowercase name ↔
      entry.englishKey = Text.lowercase name ∧ Text.trimWhite entry.en = entry.en := by
  constructor
  · intro called
    have bareToo : Text.trimWhite entry.en = entry.en := by
      rw [← Text.trimWhite_lowercase_eq_iff, called, Text.trimWhite_lowercase, bare]
    rw [Entry.englishKey, bareToo]
    exact ⟨called, rfl⟩
  · rintro ⟨key, bareToo⟩
    rwa [Entry.englishKey, bareToo] at key

theorem exists_first {entries : List Entry} {key : String}
    (known : ∃ entry ∈ entries, entry.englishKey = key) :
    ∃ before first after, entries = before ++ first :: after ∧ first.englishKey = key ∧
      ∀ earlier ∈ before, earlier.englishKey ≠ key := by
  obtain ⟨entry, member, same⟩ := known
  have found : (entries.find? fun other => other.englishKey = key).isSome :=
    List.find?_isSome.mpr ⟨entry, member, decide_eq_true same⟩
  obtain ⟨first, isFirst⟩ := Option.isSome_iff_exists.mp found
  obtain ⟨same, before, after, whole, fresh⟩ := List.find?_eq_some_iff_append.mp isFirst
  refine ⟨before, first, after, whole, of_decide_eq_true same, ?_⟩
  intro earlier member
  simpa using fresh earlier member

theorem exists_kept_isCalled_iff {entries : List Entry} {first : Entry} {name : String}
    (named : name ≠ "") (bare : Text.trimWhite name = name) (kept : first ∈ dedupe entries)
    (same : first.englishKey = Text.lowercase name) :
    (∃ entry ∈ dedupe entries, entry.IsCalled name) ↔
      Text.trimWhite first.en = first.en ∨
        ∃ entry ∈ dedupe entries, ∃ language, language ≠ .en ∧
          Text.lowercase (entry.name language) = Text.lowercase name := by
  have filled {text : String} (called : Text.lowercase text = Text.lowercase name) : text ≠ "" := by
    rintro rfl
    exact named (Text.lowercase_eq_empty_iff.mp called.symm)
  constructor
  · rintro ⟨entry, keptToo, language, -, called⟩
    by_cases english : language = .en
    · subst english
      obtain ⟨key, bareToo⟩ := (lowercase_en_eq_iff bare).mp called
      rw [eq_of_mem_dedupe kept keptToo (same.trans key.symm)]
      exact .inl bareToo
    · exact .inr ⟨entry, keptToo, language, english, called⟩
  · rintro (bareToo | ⟨entry, keptToo, language, -, called⟩)
    · have called := (lowercase_en_eq_iff bare).mpr ⟨same, bareToo⟩
      exact ⟨first, kept, .en, filled called, called⟩
    · exact ⟨entry, keptToo, language, filled called, called⟩

/-- Take an English name that is in the dictionary, and the first entry that has it, whatever its
    case and the white space around it. After deduplication the name still leads to an entry if and
    only if that entry has no white space around it, or an entry that is kept has the name in another
    language. Deduplication never makes a name lead anywhere that led nowhere. -/
theorem lookup_dedupe_isSome_iff {entries : List Entry} {name : String} (named : name ≠ "")
    (spelled : ∃ entry ∈ entries, Text.trimWhite entry.en = name) :
    ∃ before first after, entries = before ++ first :: after ∧
      first.englishKey = Text.lowercase name ∧
      (∀ earlier ∈ before, earlier.englishKey ≠ Text.lowercase name) ∧
      (((build (dedupe entries)).lookup name).isSome ↔
        Text.trimWhite first.en = first.en ∨
          ∃ kept ∈ dedupe entries, ∃ language, language ≠ .en ∧
            Text.lowercase (kept.name language) = Text.lowercase name) ∧
      (((build (dedupe entries)).lookup name).isSome → ((build entries).lookup name).isSome) := by
  obtain ⟨entry, member, spelled⟩ := spelled
  have bare : Text.trimWhite name = name := by rw [← spelled, Text.trimWhite_trimWhite]
  have filled : Text.lowercase name ≠ "" := fun empty => named (Text.lowercase_eq_empty_iff.mp empty)
  obtain ⟨before, first, after, rfl, same, fresh⟩ :=
    exists_first ⟨entry, member, congrArg Text.lowercase spelled⟩
  have kept : first ∈ dedupe (before ++ first :: after) := by
    refine mem_dedupe_of_first ?_ ?_
    · rwa [same]
    · rwa [same]
  refine ⟨before, first, after, rfl, same, fresh, ?_, ?_⟩
  · rw [lookup_build_isSome_iff]
    exact exists_kept_isCalled_iff named bare kept same
  · rw [lookup_build_isSome_iff, lookup_build_isSome_iff]
    rintro ⟨other, keptToo, called⟩
    exact ⟨other, mem_of_mem_dedupe keptToo, called⟩

/-- The first entry of the name has white space around it, and the name is found as a French one. -/
theorem lookup_dedupe_isSome_iff_soin :
    "Soin" ≠ "" ∧
    (∃ entry ∈ [(⟨" Soin ", "", ""⟩ : Entry), ⟨"Soin", "Vita", ""⟩, ⟨"Cure", "Vita", "SOIN"⟩],
      Text.trimWhite entry.en = "Soin") ∧
    ((build (dedupe [⟨" Soin ", "", ""⟩, ⟨"Soin", "Vita", ""⟩, ⟨"Cure", "Vita", "SOIN"⟩])).lookup
      "Soin").isSome := by
  have spelled : ∃ entry ∈ [(⟨" Soin ", "", ""⟩ : Entry), ⟨"Soin", "Vita", ""⟩,
      ⟨"Cure", "Vita", "SOIN"⟩], Text.trimWhite entry.en = "Soin" :=
    ⟨⟨"Soin", "Vita", ""⟩, by decide, by decide⟩
  obtain ⟨_, _, _, -, -, -, found, -⟩ := lookup_dedupe_isSome_iff (by decide) spelled
  refine ⟨by decide, spelled, found.mpr (.inr ?_)⟩
  exact ⟨⟨"Cure", "Vita", "SOIN"⟩, by decide, .fr, by decide, by decide⟩

/-- A name that leads to an entry may lead to none once the dictionary is deduplicated. -/
theorem dedupe_loses_name :
    ¬∀ (entries : List Entry) (name : String), name ≠ "" →
      (∃ entry ∈ entries, Text.trimWhite entry.en = name) →
      ((build entries).lookup name).isSome → ((build (dedupe entries)).lookup name).isSome := by
  intro kept
  have spelled : ∃ entry ∈ [(⟨" Stone", "Stein", "Pierre"⟩ : Entry), ⟨"Stone", "Stein", "Pierre"⟩],
      Text.trimWhite entry.en = "Stone" :=
    ⟨⟨"Stone", "Stein", "Pierre"⟩, by decide, by decide⟩
  have found : ((build [⟨" Stone", "Stein", "Pierre"⟩, ⟨"Stone", "Stein", "Pierre"⟩]).lookup
      "Stone").isSome := by
    rw [lookup_build]
    decide
  have still := kept _ "Stone" (by decide) spelled found
  rw [lookup_build] at still
  revert still
  decide

end Index

end Phrasebook
