import Phrasebook.Dictionary
import Phrasebook.Session.Request

/-! # Values that describe entries

Entries are taken from values in two ways: one after another, which tells the first that is refused,
or as a whole list. Both accept the lists in which every value describes an entry.
-/

namespace Phrasebook

open Json (readFields readItems)

/-- The codes that name the fields of an entry. -/
def Entry.codes : List String :=
  Language.all.map Language.code

/-- A value describes an entry if it is an object in which every name of a language is a string and
    given once, whatever else is in it, or an array of such names, some of the last left out. -/
def Json.DescribesEntry : Json → Prop
  | .object fields =>
      (∀ field ∈ fields, field.1 ∈ Entry.codes → field.2.string?.isSome = true) ∧
        ((fields.map Prod.fst).filter (Entry.codes.contains ·)).Nodup
  | .array items =>
      items.length ≤ Entry.codes.length ∧ ∀ item ∈ items, item.string?.isSome = true
  | _ => False

/-- A text lists entries if it is that of an array in which every item describes one. -/
def ListsEntries (text : String) : Prop :=
  ∃ items, Json.parse text = .ok (.array items) ∧ ∀ item ∈ items, item.DescribesEntry

namespace Entry

theorem exists_asString_iff (value : Json) (set : String → Entry) :
    (∃ read, (value.asString >>= fun text => .ok (set text)) = .ok read) ↔
      value.string?.isSome = true := by
  cases value with
  | string text => exact iff_of_true ⟨set text, rfl⟩ rfl
  | null | bool | number | array | object => exact iff_of_false (by rintro ⟨read, ⟨⟩⟩) (by nofun)

/-- The field of a name reads strings and nothing else; other names have no field. -/
theorem find?_schema_cases (name : String) :
    (Json.Field.find? schema name = none ∧ name ∉ codes) ∨
      ∃ field, Json.Field.find? schema name = some field ∧ field.name = name ∧ name ∈ codes ∧
        ∀ value entry, (∃ read, field.read value entry = .ok read) ↔
          value.string?.isSome = true := by
  by_cases en : name = "en"
  · subst en
    exact .inr ⟨_, rfl, rfl, by decide, fun value entry => exists_asString_iff value _⟩
  by_cases de : name = "de"
  · subst de
    exact .inr ⟨_, rfl, rfl, by decide, fun value entry => exists_asString_iff value _⟩
  by_cases fr : name = "fr"
  · subst fr
    exact .inr ⟨_, rfl, rfl, by decide, fun value entry => exists_asString_iff value _⟩
  · refine .inl ⟨?_, by simp [codes, Language.all, Language.code, en, de, fr]⟩
    simp [Json.Field.find?, schema, Ne.symm en, Ne.symm de, Ne.symm fr]

theorem readFields_ok_iff (fields : List (String × Json)) (seen : List String) (entry : Entry) :
    (∃ read, readFields schema seen fields entry = .ok read) ↔
      (∀ field ∈ fields, field.1 ∈ codes → field.2.string?.isSome = true ∧ field.1 ∉ seen) ∧
        ((fields.map Prod.fst).filter (codes.contains ·)).Nodup := by
  induction fields generalizing seen entry with
  | nil => exact iff_of_true ⟨entry, rfl⟩ ⟨List.forall_mem_nil _, .nil⟩
  | cons field rest ih =>
      obtain ⟨name, value⟩ := field
      rw [List.forall_mem_cons, List.map_cons]
      rcases find?_schema_cases name with ⟨unknown, other⟩ | ⟨field, found, rfl, known, reads⟩
      · rw [List.filter_cons_of_neg (by simpa using other), readFields, unknown]
        simp only [ih, other, false_implies, true_and]
      · rw [List.filter_cons_of_pos (by simpa using known), List.nodup_cons, readFields, found]
        dsimp only
        have isText := reads value entry
        by_cases repeated : field.name ∈ seen
        · rw [if_pos (by simpa using repeated)]
          refine iff_of_false (by rintro ⟨read, ⟨⟩⟩) ?_
          rintro ⟨⟨here, -⟩, -⟩
          exact (here known).2 repeated
        · rw [if_neg (by simpa using repeated)]
          cases read : field.read value entry with
          | error reason =>
              rw [read] at isText
              refine iff_of_false (by rintro ⟨read, ⟨⟩⟩) ?_
              rintro ⟨⟨here, -⟩, -⟩
              obtain ⟨_, ⟨⟩⟩ := isText.mpr (here known).1
          | ok entryToo =>
              have text := isText.mp ⟨entryToo, read⟩
              refine (ih (field.name :: seen) entryToo).trans ?_
              constructor
              · rintro ⟨later, distinct⟩
                refine ⟨⟨fun _ => ⟨text, repeated⟩, fun other member knownToo => ?_⟩, ?_, distinct⟩
                · obtain ⟨isString, unseen⟩ := later other member knownToo
                  exact ⟨isString, List.not_mem_of_not_mem_cons unseen⟩
                · intro again
                  obtain ⟨within, -⟩ := List.mem_filter.mp again
                  obtain ⟨other, member, same⟩ := List.mem_map.mp within
                  exact (later other member (same ▸ known)).2 (same ▸ List.mem_cons_self)
              · rintro ⟨⟨-, later⟩, once, distinct⟩
                refine ⟨fun other member knownToo => ?_, distinct⟩
                obtain ⟨isString, unseen⟩ := later other member knownToo
                refine ⟨isString, fun again => ?_⟩
                rcases List.mem_cons.mp again with same | before
                · exact once (List.mem_filter.mpr
                    ⟨List.mem_map.mpr ⟨other, member, same⟩, by simpa using known⟩)
                · exact unseen before

theorem readItems_ok_iff {fields : List (Json.Field Entry)}
    (reads : ∀ field ∈ fields, ∀ value entry,
      (∃ read, field.read value entry = .ok read) ↔ value.string?.isSome = true)
    (items : List Json) (entry : Entry) :
    (∃ read, readItems fields items entry = .ok read) ↔
      ∀ item ∈ items.take fields.length, item.string?.isSome = true := by
  induction fields generalizing items entry with
  | nil => exact iff_of_true ⟨entry, rfl⟩ (by simp)
  | cons field fields ih =>
      cases items with
      | nil => exact iff_of_true ⟨entry, rfl⟩ (by simp)
      | cons item items =>
          obtain ⟨here, others⟩ := List.forall_mem_cons.mp reads
          rw [List.length_cons, List.take_succ_cons, List.forall_mem_cons, readItems,
            ← here item entry]
          cases read : field.read item entry with
          | error reason => exact iff_of_false (by rintro ⟨_, ⟨⟩⟩) (by rintro ⟨⟨_, ⟨⟩⟩, -⟩)
          | ok entryToo => exact (ih others items entryToo).trans (and_iff_right ⟨_, rfl⟩).symm

theorem reads_schema : ∀ field ∈ schema, ∀ value entry,
    (∃ read, field.read value entry = .ok read) ↔ value.string?.isSome = true := by
  intro field member value entry
  simp only [schema, List.mem_cons, List.not_mem_nil, or_false] at member
  rcases member with rfl | rfl | rfl <;> exact exists_asString_iff value _

theorem ofJson_array_iff (items : List Json) :
    (∃ read, ofJson (.array items) = .ok read) ↔
      items.length ≤ codes.length ∧ ∀ item ∈ items, item.string?.isSome = true := by
  have texts := readItems_ok_iff reads_schema items {}
  have shape : ofJson (.array items) = readItems schema items {} >>= fun entry =>
      if items.length ≤ schema.length then .ok entry else .error (.wrongLength items.length) := rfl
  rw [shape]
  by_cases short : items.length ≤ schema.length
  · simp only [if_pos short]
    rw [List.take_of_length_le short] at texts
    refine Iff.trans ?_ (texts.trans (and_iff_right short).symm)
    cases readItems schema items {} with
    | error reason => exact iff_of_false (by rintro ⟨_, ⟨⟩⟩) (by rintro ⟨_, ⟨⟩⟩)
    | ok entry => exact Iff.rfl
  · simp only [if_neg short]
    refine iff_of_false ?_ fun all => short all.1
    cases readItems schema items {} <;> rintro ⟨_, ⟨⟩⟩

/-- The values that are read as entries are those that describe one. -/
theorem exists_ofJson_iff (value : Json) :
    (∃ entry, ofJson value = .ok entry) ↔ value.DescribesEntry := by
  cases value with
  | object fields =>
      refine (readFields_ok_iff fields [] {}).trans ?_
      simp only [List.not_mem_nil, not_false_eq_true, and_true]
      rfl
  | array items => exact ofJson_array_iff items
  | null | bool | number | string => exact iff_of_false (by rintro ⟨entry, ⟨⟩⟩) (by nofun)

/-- A list is read as entries when every value in it describes one. -/
theorem exists_mapM_ofJson_iff (items : List Json) :
    (∃ entries, items.mapM ofJson = .ok entries) ↔ ∀ item ∈ items, item.DescribesEntry := by
  induction items with
  | nil =>
      rw [List.mapM_nil]
      exact iff_of_true ⟨[], rfl⟩ (List.forall_mem_nil _)
  | cons item rest ih =>
      rw [List.forall_mem_cons, ← ih, ← exists_ofJson_iff, List.mapM_cons]
      cases ofJson item with
      | error reason => exact iff_of_false (by rintro ⟨_, ⟨⟩⟩) (by rintro ⟨⟨_, ⟨⟩⟩, -⟩)
      | ok entry =>
          cases rest.mapM ofJson with
          | error reason => exact iff_of_false (by rintro ⟨_, ⟨⟩⟩) (by rintro ⟨-, _, ⟨⟩⟩)
          | ok entries => exact iff_of_true ⟨entry :: entries, rfl⟩ ⟨⟨entry, rfl⟩, entries, rfl⟩

end Entry

theorem Dictionary.ofText_eq_ok_iff {origin text : String} {entries : List Entry} :
    Dictionary.ofText origin text = .ok entries ↔
      ∃ items, Json.parse text = .ok (.array items) ∧ items.mapM Entry.ofJson = .ok entries := by
  unfold Dictionary.ofText
  cases Json.parse text with
  | error error => exact iff_of_false (by nofun) (by rintro ⟨_, ⟨⟩, -⟩)
  | ok value =>
      cases value with
      | array items =>
          simp only [Except.ok.injEq, Json.array.injEq, exists_eq_left']
          cases items.mapM Entry.ofJson with
          | error reason => exact iff_of_false (by nofun) (by nofun)
          | ok all => rw [Except.ok.injEq, Except.ok.injEq]
      | null | bool | number | string | object =>
          exact iff_of_false (by nofun) (by rintro ⟨_, ⟨⟩, -⟩)

/-- The texts that are read as dictionaries are those that list entries. -/
theorem Dictionary.exists_ofText_iff (origin text : String) :
    (∃ entries, Dictionary.ofText origin text = .ok entries) ↔ ListsEntries text := by
  simp only [Dictionary.ofText_eq_ok_iff, ListsEntries, ← Entry.exists_mapM_ofJson_iff]
  constructor
  · rintro ⟨entries, items, parsed, valid⟩
    exact ⟨items, parsed, entries, valid⟩
  · rintro ⟨items, parsed, entries, valid⟩
    exact ⟨entries, items, parsed, valid⟩

namespace Request

/-- One after another, entries are accepted just when the whole list is, and are the same. -/
theorem toOption_entriesFrom (position : Nat) (items : List Json) :
    (entriesFrom position items).toOption = (items.mapM Entry.ofJson).toOption := by
  induction items generalizing position with
  | nil =>
      rw [List.mapM_nil]
      rfl
  | cons item rest ih =>
      have others := ih (position + 1)
      rw [entriesFrom, List.mapM_cons]
      cases Entry.ofJson item with
      | error reason => rfl
      | ok entry =>
          generalize entriesFrom (position + 1) rest = one at others
          generalize rest.mapM Entry.ofJson = whole at others
          cases one with
          | error refusal =>
              cases whole with
              | error reason => rfl
              | ok entries => cases others
          | ok entries =>
              cases whole with
              | error reason => cases others
              | ok entriesToo => exact congrArg (Option.map (entry :: ·)) others

theorem entriesFrom_eq_ok_iff {position : Nat} {items : List Json} {entries : List Entry} :
    entriesFrom position items = .ok entries ↔ items.mapM Entry.ofJson = .ok entries := by
  have same := toOption_entriesFrom position items
  generalize entriesFrom position items = one at same ⊢
  generalize items.mapM Entry.ofJson = whole at same ⊢
  cases one with
  | error refusal =>
      cases whole with
      | error reason => exact iff_of_false (by nofun) (by nofun)
      | ok all => cases same
  | ok taken =>
      cases whole with
      | error reason => cases same
      | ok all =>
          obtain rfl := Option.some.inj same
          rw [Except.ok.injEq, Except.ok.injEq]

theorem entriesFrom_of_first {before : List Json} {item : Json} {reason : Json.Reason}
    (valid : ∀ earlier ∈ before, earlier.DescribesEntry)
    (invalid : Entry.ofJson item = .error reason) (after : List Json) (position : Nat) :
    entriesFrom position (before ++ item :: after) =
      .error (.invalidEntry (position + before.length) reason) := by
  induction before generalizing position with
  | nil =>
      rw [List.nil_append, entriesFrom, invalid]
      rfl
  | cons earlier before ih =>
      obtain ⟨here, others⟩ := List.forall_mem_cons.mp valid
      obtain ⟨entry, read⟩ := (Entry.exists_ofJson_iff earlier).mpr here
      rw [List.cons_append, entriesFrom, read]
      simp only [ih others, Except.map, List.length_cons, Nat.add_assoc, Nat.add_comm 1]

/-- The position that a refusal names is that of the first value that describes no entry. -/
theorem first_of_entriesFrom {position : Nat} {items : List Json} {refusal : Refusal}
    (refused : entriesFrom position items = .error refusal) :
    ∃ before item after reason, items = before ++ item :: after ∧
      (∀ earlier ∈ before, earlier.DescribesEntry) ∧ ¬item.DescribesEntry ∧
      Entry.ofJson item = .error reason ∧
      refusal = .invalidEntry (position + before.length) reason := by
  induction items generalizing position with
  | nil => cases refused
  | cons item rest ih =>
      unfold entriesFrom at refused
      cases read : Entry.ofJson item with
      | error reason =>
          rw [read] at refused
          have invalid : ¬item.DescribesEntry := by
            rw [← Entry.exists_ofJson_iff, read]
            rintro ⟨entry, ⟨⟩⟩
          obtain rfl := Except.error.inj refused
          exact ⟨[], item, rest, reason, rfl, List.forall_mem_nil _, invalid, read, rfl⟩
      | ok entry =>
          rw [read] at refused
          cases others : entriesFrom (position + 1) rest with
          | ok entries =>
              rw [others] at refused
              cases refused
          | error refusalToo =>
              rw [others] at refused
              obtain rfl := Except.error.inj refused
              obtain ⟨before, first, after, reason, rfl, valid, invalid, readFirst, rfl⟩ :=
                ih others
              have here := (Entry.exists_ofJson_iff item).mp ⟨entry, read⟩
              refine ⟨item :: before, first, after, reason, rfl,
                List.forall_mem_cons.mpr ⟨here, valid⟩, invalid, readFirst, ?_⟩
              rw [List.length_cons, Nat.add_assoc, Nat.add_comm 1]

theorem entriesFrom_eq_error_iff {items : List Json} {position : Nat} {reason : Json.Reason} :
    entriesFrom 0 items = .error (.invalidEntry position reason) ↔
      ∃ before item after, items = before ++ item :: after ∧ position = before.length ∧
        (∀ earlier ∈ before, earlier.DescribesEntry) ∧ ¬item.DescribesEntry ∧
        Entry.ofJson item = .error reason := by
  constructor
  · intro refused
    obtain ⟨before, item, after, reasonToo, rfl, valid, invalid, read, same⟩ :=
      first_of_entriesFrom refused
    obtain ⟨rfl, rfl⟩ := Refusal.invalidEntry.inj same
    exact ⟨before, item, after, rfl, Nat.zero_add _, valid, invalid, read⟩
  · rintro ⟨before, item, after, rfl, rfl, valid, -, invalid⟩
    rw [entriesFrom_of_first valid invalid, Nat.zero_add]

end Request
end Phrasebook
