import Phrasebook.Proofs.Json.Reading
import Phrasebook.Settings.Reader

/-! # Settings read back

Settings that are written as a document are read back as they were: the language, the sources with
every character, in order, and whether to deduplicate.
-/

namespace Phrasebook.Settings

open Json (Cursor Reads isBlank stringText newLine)

/-! ## Scalars -/

theorem reads_string (text : String) : Reads readString (stringText text) text := by
  intro index rest
  obtain ⟨after, scalar⟩ := Json.scalar?_string text index rest
  refine ⟨after, ?_⟩
  unfold readString readScalar
  rw [stringText, List.cons_append, List.cons_append, Json.skipBlanks_cons (c := '"') rfl]
  dsimp only [stringText, List.cons_append] at scalar ⊢
  rw [scalar]
  rfl

theorem reads_bool (value : Bool) : Reads readBool (Json.bool value).compactChars value := by
  intro index rest
  obtain ⟨c, letters, chars, visible, scalar⟩ := Json.scalar?_bool value
  obtain ⟨after, scalar⟩ := scalar index rest
  refine ⟨after, ?_⟩
  unfold readBool readScalar
  rw [chars, List.cons_append, Json.skipBlanks_cons visible]
  dsimp only [List.cons_append] at scalar ⊢
  rw [scalar]
  rfl

theorem reads_language (language : Language) :
    Reads readLanguage (stringText language.code) language := by
  intro index rest
  obtain ⟨after, read⟩ := Json.reads_stringBody language.code (index + 1) rest
  refine ⟨after, ?_⟩
  have known : Language.byCode.lookup language.code = some language := by
    cases language <;> decide
  unfold readLanguage
  rw [stringText, List.cons_append, List.cons_append, Json.skipBlanks_cons (c := '"') rfl]
  change readCode ⟨index + 1, language.code.toList.flatMap Json.escapedChar ++ ['"'] ++ rest⟩ = _
  simp only [readCode, read, bind, Except.bind, variant, known]

/-! ## The sources -/

/-- One more item of a list. -/
theorem readStrings_more {steps between : Nat} {first : Bool} {cursor : Cursor} {item : String}
    {others : List String} {tail rest : List Char}
    (ahead : Json.nextItem first cursor = .ok (.more ⟨between, stringText item ++ (tail ++ rest)⟩))
    (later : Reads (readStrings steps false) tail others) :
    ∃ after, readStrings (steps + 1) first cursor = .ok (item :: others, ⟨after, rest⟩) := by
  obtain ⟨next, read⟩ := reads_string item between (tail ++ rest)
  obtain ⟨after, later⟩ := later next rest
  refine ⟨after, ?_⟩
  simp only [readStrings, ahead, bind, Except.bind, read, later]

theorem reads_strings {items : List String} {steps : Nat} (depth : Nat) (first : Bool)
    (enough : items.length < steps) :
    Reads (readStrings steps first) (Json.itemsText depth first (items.map .string)) items := by
  induction items generalizing steps first with
  | nil =>
      intro index rest
      obtain ⟨steps, rfl⟩ := Nat.exists_eq_add_of_lt enough
      obtain ⟨after, ahead⟩ := Json.nextItem_done rest (Json.isBlank_newLine depth) first index
      refine ⟨after, ?_⟩
      simp [Json.itemsText_nil, readStrings, ahead, bind, Except.bind]
  | cons item others ih =>
      intro index rest
      obtain ⟨steps, rfl⟩ := Nat.exists_eq_add_of_lt enough
      have later := ih false (show others.length < others.length + 1 + steps by omega)
      obtain ⟨between, ahead⟩ := Json.nextItem_string
        (Json.itemsText depth false (others.map .string) ++ rest)
        (Json.isBlank_newLine (depth + 1)) first index item
      obtain ⟨after, more⟩ := readStrings_more ahead later
      refine ⟨after, ?_⟩
      rw [List.map_cons, Json.itemsText_cons, List.append_assoc, List.append_assoc]
      exact more

theorem reads_sources (depth : Nat) (items : List String) :
    Reads readSources (Json.indentedChars depth (.array (items.map .string))) items := by
  intro index rest
  cases items with
  | nil =>
      obtain ⟨after, ahead⟩ := Json.nextItem_done rest (List.forall_mem_nil _) true (index + 1)
      refine ⟨after, ?_⟩
      simp only [readSources, List.map_nil, Json.indentedChars, List.cons_append]
      rw [Json.skipBlanks_cons (c := '[') rfl]
      change readStrings _ true ⟨index + 1, ([] ++ ']' :: rest)⟩ = _
      simp only [readStrings, ahead, bind, Except.bind]
  | cons item others =>
      let text := Json.itemsText depth true ((item :: others).map .string)
      have chars : Json.indentedChars depth (.array ((item :: others).map .string)) =
          '[' :: text := by
        simp [Json.indentedChars, text, Json.itemsText]
      have enough := Json.length_lt_itemsText depth true ((item :: others).map .string)
      rw [List.length_map] at enough
      have long : (item :: others).length < (text ++ rest).length + 1 := by
        simp only [List.length_append, text]
        omega
      obtain ⟨after, read⟩ := reads_strings depth true long (index + 1) rest
      refine ⟨after, ?_⟩
      rw [chars, List.cons_append]
      unfold readSources
      rw [Json.skipBlanks_cons (c := '[') rfl]
      exact read

/-! ## Fields -/

/-- Settings with one of them taken from others. -/
def adopt (source : Settings) (settings : Settings) : Key → Settings
  | .targetLanguage => { settings with targetLanguage := source.targetLanguage }
  | .dictionarySources => { settings with dictionarySources := source.dictionarySources }
  | .dedupeOnLoad => { settings with dedupeOnLoad := source.dedupeOnLoad }

theorem adopt_all (source settings : Settings) : Key.all.foldl (adopt source) settings = source :=
  rfl

theorem ofName?_name (key : Key) : Key.ofName? key.name = some key := by
  cases key <;> decide

theorem reads_setting (source settings : Settings) (key : Key) (depth : Nat) :
    Reads (readSetting key settings) (Json.indentedChars depth (source.value key))
      (adopt source settings key) := by
  intro index rest
  cases key with
  | targetLanguage =>
      obtain ⟨after, read⟩ := reads_language source.targetLanguage index rest
      refine ⟨after, ?_⟩
      simp only [readSetting, value, Json.indentedChars, Json.compactChars, read, bind,
        Except.bind, adopt]
  | dictionarySources =>
      obtain ⟨after, read⟩ := reads_sources depth source.dictionarySources index rest
      refine ⟨after, ?_⟩
      simp only [readSetting, value, read, bind, Except.bind, adopt]
  | dedupeOnLoad =>
      obtain ⟨after, read⟩ := reads_bool source.dedupeOnLoad index rest
      refine ⟨after, ?_⟩
      simp only [readSetting, value, Json.indentedChars, read, bind, Except.bind, adopt]

theorem readSetting_skipBlanks (key : Key) (settings : Settings) (cursor : Cursor) :
    readSetting key settings cursor.skipBlanks = readSetting key settings cursor := by
  cases key <;>
    simp only [readSetting, readLanguage, readSources, readBool, readScalar,
      Json.skipBlanks_skipBlanks]

/-- Some of the settings with their values. -/
def fieldsOf (source : Settings) (keys : List Key) : List (String × Json) :=
  keys.map fun key => (key.name, source.value key)

/-- Fields up to the closing brace, each key once. -/
theorem reads_named (source : Settings) {keys seen : List Key} {steps : Nat} (first : Bool)
    (settings : Settings) (enough : keys.length < steps) (once : keys.Nodup)
    (fresh : ∀ key ∈ keys, key ∉ seen) :
    Reads (readNamed steps seen first settings)
      (Json.fieldsText 0 first (fieldsOf source keys)) (keys.foldl (adopt source) settings) := by
  induction keys generalizing steps first settings seen with
  | nil =>
      intro index rest
      obtain ⟨steps, rfl⟩ := Nat.exists_eq_add_of_lt enough
      obtain ⟨after, ahead⟩ := Json.nextField_done rest (Json.isBlank_newLine 0) first index
      refine ⟨after, ?_⟩
      simp [fieldsOf, Json.fieldsText_nil, readNamed, ahead, bind, Except.bind]
  | cons key others ih =>
      intro index rest
      obtain ⟨steps, rfl⟩ := Nat.exists_eq_add_of_lt enough
      obtain ⟨single, othersOnce⟩ := List.nodup_cons.mp once
      have unread : ∀ other ∈ others, other ∉ key :: seen := by
        intro other member seenToo
        rcases List.mem_cons.mp seenToo with rfl | before
        · exact single member
        · exact fresh other (List.mem_cons_of_mem _ member) before
      have later := ih false (adopt source settings key)
        (show others.length < others.length + 1 + steps by omega) othersOnce unread
      -- The text behind the value.
      let tail := Json.fieldsText 0 false (fieldsOf source others) ++ rest
      obtain ⟨between, name, ahead, named⟩ := Json.nextField_name
        (':' :: ([' '] ++ Json.indentedChars 1 (source.value key) ++ tail))
        (Json.isBlank_newLine 1) first index key.name
      have space : ∀ c ∈ [' '], isBlank c = true := by simp [isBlank]
      have reads := (reads_setting source settings key 1).behind
        (readSetting_skipBlanks key settings) space
      obtain ⟨value, read⟩ := reads (name + 1) tail
      obtain ⟨after, later⟩ := later value rest
      refine ⟨after, ?_⟩
      have text : Json.fieldsText 0 first (fieldsOf source (key :: others)) ++ rest =
          Json.separator first (newLine 1) ++ (stringText key.name ++
            ':' :: ([' '] ++ Json.indentedChars 1 (source.value key) ++ tail)) := by
        simp [fieldsOf, Json.fieldsText_cons, tail]
      have unseen : seen.contains key = false := by
        simpa using fresh key List.mem_cons_self
      have length : (key :: others).length + steps + 1 = (others.length + 1 + steps) + 1 := by
        simp only [List.length_cons]
      rw [text, length, readNamed]
      simp only [ahead, named, ofName?_name, unseen, Json.colon_ahead, read, bind, Except.bind,
        Bool.false_eq_true, if_false, List.foldl_cons]
      exact later

theorem reads_settings (settings : Settings) :
    Reads readSettings (settings.document.indentedChars 0) settings := by
  intro index rest
  have document : settings.document.indentedChars 0 =
      '{' :: Json.fieldsText 0 true (fieldsOf settings Key.all) := by
    simp [Settings.document, fields, Key.all, Json.indentedChars, fieldsOf, Json.fieldsText]
  have enough := Json.length_lt_fieldsText 0 true (fieldsOf settings Key.all)
  rw [fieldsOf, List.length_map] at enough
  have long : Key.all.length <
      (Json.fieldsText 0 true (fieldsOf settings Key.all) ++ rest).length + 1 := by
    rw [List.length_append, fieldsOf]
    omega
  have fresh : ∀ key ∈ Key.all, key ∉ ([] : List Key) := by simp
  obtain ⟨after, read⟩ := reads_named settings true {} long (by decide) fresh (index + 1) rest
  refine ⟨after, ?_⟩
  rw [document, List.cons_append]
  unfold readSettings
  rw [Json.skipBlanks_cons (c := '{') rfl]
  rw [adopt_all] at read
  exact read

/-- What is written as the document of some settings is read as these settings. -/
theorem parse_document (settings : Settings) :
    parse settings.document.indented = .ok settings := by
  obtain ⟨after, read⟩ := reads_settings settings 0 []
  rw [List.append_nil] at read
  have chars : readChars settings.document.indented.toList = .ok settings := by
    simp [readChars, Json.indented, Cursor.start, read, bind, Except.bind, Json.endOfText,
      Cursor.skipBlanks]
  rw [parse, chars]
  rfl

end Phrasebook.Settings
