import Mathlib.Data.List.Basic
import Mathlib.Data.List.Induction
import Phrasebook.Proofs.Dictionary.Deduplication

/-! # The first entry of each name

Deduplication passes over a dictionary once, with the names that it has seen. What it keeps can be
told place by place all the same: an entry stays if its English name is new where it stands. Hence
nothing is lost when a dictionary is deduplicated before another is put behind it.
-/

namespace Phrasebook

variable {seen seenToo : List String}

/-- Of what was seen, only the names count, and an empty name counts for nothing. -/
theorem dedupeFrom_congr (alike : ∀ key, key ≠ "" → (key ∈ seen ↔ key ∈ seenToo))
    (entries : List Entry) : dedupeFrom seen entries = dedupeFrom seenToo entries := by
  induction entries generalizing seen seenToo with
  | nil => rfl
  | cons entry rest ih =>
      simp only [dedupeFrom]
      by_cases nameless : entry.englishKey = ""
      · rw [if_pos (.inl nameless), if_pos (.inl nameless), ih alike]
      · simp only [nameless, false_or, alike _ nameless]
        have grown : ∀ key, key ≠ "" →
            (key ∈ entry.englishKey :: seen ↔ key ∈ entry.englishKey :: seenToo) := by
          intro key named
          rw [List.mem_cons, List.mem_cons, alike key named]
        rw [ih alike, ih grown]

theorem dedupeFrom_append (seen : List String) (entries later : List Entry) :
    dedupeFrom seen (entries ++ later) =
      dedupeFrom seen entries ++ dedupeFrom (entries.map Entry.englishKey ++ seen) later := by
  induction entries generalizing seen with
  | nil => rfl
  | cons entry rest ih =>
      simp only [List.cons_append, dedupeFrom]
      split
      · next dropped =>
        rw [ih]
        refine congrArg _ (dedupeFrom_congr ?_ later)
        intro key named
        rw [List.map_cons, List.cons_append, List.mem_cons, iff_or_self]
        rintro rfl
        exact List.mem_append_right _ (dropped.resolve_left named)
      · rw [ih, List.cons_append]
        refine congrArg (entry :: dedupeFrom _ rest ++ ·) (dedupeFrom_congr ?_ later)
        intro key _
        simp only [List.mem_append, List.mem_cons, List.map_cons, or_assoc]
        exact or_left_comm

theorem dedupe_append (entries later : List Entry) :
    dedupe (entries ++ later) =
      dedupe entries ++ dedupeFrom (entries.map Entry.englishKey) later := by
  rw [dedupe, dedupeFrom_append, List.append_nil, dedupe]

theorem dedupe_concat (entries : List Entry) (entry : Entry) :
    dedupe (entries ++ [entry]) =
      if entry.englishKey = "" ∨ entry.englishKey ∈ entries.map Entry.englishKey
      then dedupe entries else dedupe entries ++ [entry] := by
  rw [dedupe_append]
  simp only [dedupeFrom]
  split
  · exact List.append_nil _
  · rfl

/-- The names that are left are those that the dictionary has. -/
theorem mem_map_dedupe {entries : List Entry} {key : String} :
    key ∈ (dedupe entries).map Entry.englishKey ↔
      key ≠ "" ∧ key ∈ entries.map Entry.englishKey := by
  induction entries using List.reverseRecOn with
  | nil => simp
  | append_singleton before entry ih =>
      rw [dedupe_concat]
      split
      · next dropped =>
        rw [ih, List.map_append, List.mem_append, List.map_singleton, List.mem_singleton]
        refine and_congr_right fun named => ?_
        rw [iff_self_or]
        rintro rfl
        exact dropped.resolve_left named
      · next kept =>
        rw [List.map_append, List.map_append, List.mem_append, List.mem_append, ih,
          List.map_singleton, List.mem_singleton]
        constructor
        · rintro (⟨named, known⟩ | rfl)
          · exact ⟨named, .inl known⟩
          · exact ⟨fun nameless => kept (.inl nameless), .inr rfl⟩
        · rintro ⟨named, known | last⟩
          · exact .inl ⟨named, known⟩
          · exact .inr last

theorem dedupe_eq_filter (entries : List Entry) :
    dedupe entries = (entries.zipIdx.filter fun (entry, place) =>
      entry.englishKey ≠ "" ∧
        entry.englishKey ∉ (entries.take place).map Entry.englishKey).map Prod.fst := by
  induction entries using List.reverseRecOn with
  | nil => rfl
  | append_singleton before entry ih =>
      have earlier (numbered : Entry × Nat) (member : numbered ∈ before.zipIdx) :
          (before ++ [entry]).take numbered.2 = before.take numbered.2 := by
        have found := List.mem_zipIdx_iff_getElem?.mp member
        have inside := (List.getElem?_eq_some_iff.mp found).1
        exact List.take_append_of_le_length (Nat.le_of_lt inside)
      have unchanged : (before.zipIdx.filter fun (entryToo, place) => entryToo.englishKey ≠ "" ∧
            entryToo.englishKey ∉ ((before ++ [entry]).take place).map Entry.englishKey) =
          before.zipIdx.filter fun (entryToo, place) => entryToo.englishKey ≠ "" ∧
            entryToo.englishKey ∉ (before.take place).map Entry.englishKey :=
        List.filter_congr fun numbered member => by simp only [earlier numbered member]
      rw [dedupe_concat, List.zipIdx_append, List.filter_append, List.map_append, unchanged, ← ih,
        List.zipIdx_singleton, Nat.zero_add]
      split
      · next dropped =>
        rw [List.filter_cons_of_neg, List.filter_nil, List.map_nil, List.append_nil]
        simpa only [List.take_left, decide_eq_true_eq, ← not_or, not_not] using dropped
      · next kept =>
        rw [List.filter_cons_of_pos, List.filter_nil, List.map_singleton]
        simpa only [List.take_left, decide_eq_true_eq, ← not_or] using kept

/-- Deduplication keeps the entries whose English name is there, cut of white space and in lower
    case, and not before them, and leaves them as they are and in order. So the English names that
    are left are all those of the dictionary, each once. What is left is kept when it is deduplicated
    again, also with other entries behind it. -/
theorem dedupe_keeps_firsts (entries later : List Entry) :
    dedupe entries = (entries.zipIdx.filter fun (entry, place) =>
      entry.englishKey ≠ "" ∧
        entry.englishKey ∉ (entries.take place).map Entry.englishKey).map Prod.fst ∧
    ((dedupe entries).map Entry.englishKey).Nodup ∧
    (∀ key, key ∈ (dedupe entries).map Entry.englishKey ↔
      key ≠ "" ∧ key ∈ entries.map Entry.englishKey) ∧
    dedupe (dedupe entries) = dedupe entries ∧
    dedupe (entries ++ later) = dedupe (dedupe entries ++ later) := by
  refine ⟨dedupe_eq_filter entries, ?_, fun _ => mem_map_dedupe, dedupe_dedupe entries, ?_⟩
  · exact List.pairwise_map.mpr (isDeduped_dedupeFrom [] entries).distinct
  · have known : ∀ key, key ≠ "" →
        (key ∈ entries.map Entry.englishKey ↔ key ∈ (dedupe entries).map Entry.englishKey) := by
      intro key named
      rw [mem_map_dedupe, and_iff_right named]
    rw [dedupe_append, dedupe_append, dedupe_dedupe, dedupeFrom_congr known]

end Phrasebook
