import Phrasebook.Json.Parser
import Phrasebook.Proofs.Json.Printing
import Phrasebook.Proofs.Text.Trimming

/-! # Printed JSON read back

What a reader makes of a printed text does not depend on where the text stands or on what follows
it. A string is read back whatever its characters are, because each is written in a way that the
reader takes for that character alone.
-/

namespace Phrasebook.Json

/-- A reader takes a text, wherever it stands and whatever follows it, for a value. -/
def Reads {α : Type} (reader : Cursor → Except Fault (α × Cursor)) (text : List Char) (value : α) :
    Prop :=
  ∀ index rest, ∃ after, reader ⟨index, text ++ rest⟩ = .ok (value, ⟨after, rest⟩)

/-! ## Blanks -/

theorem isBlank_newLine (depth : Nat) : ∀ c ∈ newLine depth, isBlank c = true := by
  intro c member
  rcases List.mem_cons.mp member with rfl | space
  · rfl
  · rw [List.eq_of_mem_replicate space]
    rfl

/-- Blanks are passed over. -/
theorem skipBlanks_append {blanks : List Char} (blank : ∀ c ∈ blanks, isBlank c = true)
    (index : Nat) (rest : List Char) :
    (⟨index, blanks ++ rest⟩ : Cursor).skipBlanks =
      (⟨index + blanks.length, rest⟩ : Cursor).skipBlanks := by
  simp only [Cursor.skipBlanks, List.takeWhile_append_of_pos blank,
    List.dropWhile_append_of_pos blank, List.length_append, Nat.add_assoc]

theorem skipBlanks_cons {c : Char} (visible : isBlank c = false) (index : Nat) (rest : List Char) :
    (⟨index, c :: rest⟩ : Cursor).skipBlanks = ⟨index, c :: rest⟩ := by
  simp [Cursor.skipBlanks, visible]

theorem skipBlanks_skipBlanks (cursor : Cursor) :
    cursor.skipBlanks.skipBlanks = cursor.skipBlanks := by
  have stops := Text.startsOutside_dropWhile isBlank cursor.rest
  generalize shape : cursor.skipBlanks = skipped at *
  obtain ⟨index, rest⟩ := skipped
  cases rest with
  | nil => rfl
  | cons c rest =>
      have visible : isBlank c = false := by
        have rest_eq : cursor.rest.dropWhile isBlank = c :: rest := congrArg Cursor.rest shape
        exact Text.startsOutside_cons.mp (rest_eq ▸ stops)
      exact skipBlanks_cons visible index rest

/-- A reader that passes over blanks first takes a text behind blanks for the same value. -/
theorem Reads.behind {α : Type} {reader : Cursor → Except Fault (α × Cursor)}
    {blanks text : List Char} {value : α} (reads : Reads reader text value)
    (skips : ∀ cursor, reader cursor.skipBlanks = reader cursor)
    (blank : ∀ c ∈ blanks, isBlank c = true) : Reads reader (blanks ++ text) value := by
  intro index rest
  obtain ⟨after, read⟩ := reads (index + blanks.length) rest
  refine ⟨after, ?_⟩
  rw [List.append_assoc, ← skips, skipBlanks_append blank, skips, read]

/-! ## Strings -/

theorem stringFrom_quote (seen : List Char) (index : Nat) (rest : List Char) :
    stringFrom seen ⟨index, '"' :: rest⟩ = .ok (String.ofList seen.reverse, ⟨index + 1, rest⟩) := by
  rw [stringFrom]
  rfl

theorem stringFrom_escape {seen rest : List Char} {index : Nat} {c : Char} {next : Cursor}
    (escaped : escape ⟨index + 1, rest⟩ = .ok (c, next)) :
    stringFrom seen ⟨index, '\\' :: rest⟩ = stringFrom (c :: seen) next := by
  rw [stringFrom]
  split
  case h_3 behind shape =>
    cases shape
    split
    case h_1 fault refused =>
      cases refused.symm.trans escaped
    case h_2 d after read =>
      cases read.symm.trans escaped
      rfl
  case h_4 d behind _ other shape =>
    cases shape
    exact absurd rfl other
  case h_1 shape => cases shape
  case h_2 behind shape => cases shape

/-- What a reader refuses in an escape it refuses in the string. -/
theorem stringFrom_refused {seen rest : List Char} {index : Nat} {fault : Fault}
    (refused : escape ⟨index + 1, rest⟩ = .error fault) :
    stringFrom seen ⟨index, '\\' :: rest⟩ = .error fault := by
  rw [stringFrom]
  split
  case h_3 behind shape =>
    cases shape
    split
    case h_1 faultToo refusedToo =>
      cases refusedToo.symm.trans refused
      rfl
    case h_2 d after read =>
      cases read.symm.trans refused
  case h_4 d behind _ other shape =>
    cases shape
    exact absurd rfl other
  case h_1 shape => cases shape
  case h_2 behind shape => cases shape

theorem stringFrom_cons {seen rest : List Char} {index : Nat} {c : Char} (quote : c ≠ '"')
    (backslash : c ≠ '\\') :
    stringFrom seen ⟨index, c :: rest⟩ =
      if c.toNat < 0x20 then .error ⟨.controlCharacter, index + 1⟩
      else stringFrom (c :: seen) ⟨index + c.utf8Size, rest⟩ := by
  rw [stringFrom]
  split
  case h_4 d behind _ _ shape =>
    cases shape
    rfl
  case h_2 behind shape =>
    cases shape
    exact absurd rfl quote
  case h_3 behind shape =>
    cases shape
    exact absurd rfl backslash
  case h_1 shape => cases shape

theorem stringFrom_plain {seen rest : List Char} {index : Nat} {c : Char} (quote : c ≠ '"')
    (backslash : c ≠ '\\') (shown : IsShown c) :
    stringFrom seen ⟨index, c :: rest⟩ = stringFrom (c :: seen) ⟨index + c.utf8Size, rest⟩ := by
  rw [stringFrom_cons quote backslash, if_neg (Nat.not_lt.mpr shown)]

/-- A character that needs four hexadecimal digits is below the space. -/
theorem escape_hex {c : Char} (control : c.toNat < 0x20) (index : Nat) (rest : List Char) :
    escape ⟨index, 'u' :: '0' :: '0' :: hexDigit (c.toNat / 16) :: hexDigit c.toNat :: rest⟩ =
      .ok (c, ⟨index + 5, rest⟩) := by
  have digits : ∀ n : Fin 16, hexValue? (Nat.digitChar n) = some n.val := by decide
  have high : hexValue? (hexDigit (c.toNat / 16)) = some (c.toNat / 16 % 16) :=
    digits ⟨c.toNat / 16 % 16, by omega⟩
  have low : hexValue? (hexDigit c.toNat) = some (c.toNat % 16) := digits ⟨c.toNat % 16, by omega⟩
  have zero : hexValue? '0' = some 0 := by decide
  have value : ((0 * 16 + 0) * 16 + c.toNat / 16 % 16) * 16 + c.toNat % 16 = c.toNat := by omega
  have plain : c.toNat < 0xD800 ∨ 0xDBFF < c.toNat := .inl (by omega)
  have paired : ¬(0xDC00 ≤ c.toNat ∧ c.toNat ≤ 0xDFFF) := by omega
  simp only [escape, unicodeEscape, hexUnit, Cursor.past, zero, high, low, value, bind, Except.bind,
    paired, plain, if_true, if_false, Char.ofNat_toNat]
  rfl

/-- What a character is written as is read as that character. -/
theorem stringFrom_escapedChar (seen : List Char) (c : Char) (index : Nat) (rest : List Char) :
    ∃ after, stringFrom seen ⟨index, escapedChar c ++ rest⟩ =
      stringFrom (c :: seen) ⟨after, rest⟩ := by
  unfold escapedChar
  -- Seven characters have a letter for their escape.
  split
  iterate 7 exact ⟨index + 2, stringFrom_escape rfl⟩
  split
  · next control => exact ⟨index + 6, stringFrom_escape (escape_hex control _ _)⟩
  · next quote backslash _ _ _ _ _ shown =>
    exact ⟨_, stringFrom_plain quote backslash (Nat.le_of_not_lt shown)⟩

theorem stringFrom_escaped (seen text : List Char) (index : Nat) (rest : List Char) :
    ∃ after, stringFrom seen ⟨index, text.flatMap escapedChar ++ '"' :: rest⟩ =
      .ok (String.ofList (seen.reverse ++ text), ⟨after, rest⟩) := by
  induction text generalizing seen index with
  | nil => exact ⟨index + 1, by simpa using stringFrom_quote seen index rest⟩
  | cons c text ih =>
      obtain ⟨between, first⟩ := stringFrom_escapedChar seen c index
        (text.flatMap escapedChar ++ '"' :: rest)
      obtain ⟨after, others⟩ := ih (c :: seen) between
      refine ⟨after, ?_⟩
      rw [List.flatMap_cons, List.append_assoc, first, others, List.reverse_cons,
        List.append_assoc, List.singleton_append]

/-- What a string is written as, behind its opening quote, is read as that string. -/
theorem reads_stringBody (text : String) :
    Reads stringBody (text.toList.flatMap escapedChar ++ ['"']) text := by
  intro index rest
  obtain ⟨after, read⟩ := stringFrom_escaped [] text.toList index rest
  refine ⟨after, ?_⟩
  rw [List.append_assoc, List.singleton_append]
  simpa [stringBody] using read

/-! ## Scalars -/

theorem word_append (letters : List Char) (index : Nat) (rest : List Char) :
    ∃ after, word letters ⟨index, letters ++ rest⟩ = .ok ⟨after, rest⟩ := by
  induction letters generalizing index with
  | nil => exact ⟨index, rfl⟩
  | cons c letters ih =>
      obtain ⟨after, read⟩ := ih (index + c.utf8Size)
      exact ⟨after, by simpa [word, Cursor.past] using read⟩

theorem scalar?_string (text : String) (index : Nat) (rest : List Char) :
    ∃ after, scalar? '"' (text.toList.flatMap escapedChar ++ ['"'] ++ rest)
        ⟨index, stringText text ++ rest⟩ = some (.ok (.string text, ⟨after, rest⟩)) := by
  obtain ⟨after, read⟩ := reads_stringBody text (index + 1) rest
  refine ⟨after, ?_⟩
  change some ((stringBody ⟨index + 1, _⟩).map _) = _
  rw [read]
  rfl

theorem scalar?_bool (value : Bool) :
    ∃ c letters, (Json.bool value).compactChars = c :: letters ∧ isBlank c = false ∧
      ∀ index rest, ∃ after, scalar? c (letters ++ rest) ⟨index, c :: letters ++ rest⟩ =
        some (.ok (.bool value, ⟨after, rest⟩)) := by
  cases value with
  | true =>
      refine ⟨'t', ['r', 'u', 'e'], rfl, rfl, fun index rest => ?_⟩
      obtain ⟨after, read⟩ := word_append ['r', 'u', 'e'] (index + 1) rest
      refine ⟨after, ?_⟩
      change some ((word ['r', 'u', 'e'] ⟨index + 1, _⟩).map _) = _
      rw [read]
      rfl
  | false =>
      refine ⟨'f', ['a', 'l', 's', 'e'], rfl, rfl, fun index rest => ?_⟩
      obtain ⟨after, read⟩ := word_append ['a', 'l', 's', 'e'] (index + 1) rest
      refine ⟨after, ?_⟩
      change some ((word ['a', 'l', 's', 'e'] ⟨index + 1, _⟩).map _) = _
      rw [read]
      rfl

/-! ## What stands between the parts of a value

Items and fields on lines of their own: what is read up to the next one. -/

/-- The text of items that stand behind others. -/
def itemsBehind (depth : Nat) : List Json → List Char
  | [] => []
  | item :: rest => ',' :: indentedItems depth (item :: rest)

theorem indentedItems_cons (depth : Nat) (item : Json) (rest : List Json) :
    indentedItems depth (item :: rest) =
      newLine (depth + 1) ++ (indentedChars (depth + 1) item ++ itemsBehind depth rest) := by
  cases rest <;> simp [indentedItems, itemsBehind]

theorem itemsBehind_cons (depth : Nat) (item : Json) (rest : List Json) :
    itemsBehind depth (item :: rest) = ',' :: (newLine (depth + 1) ++
      (indentedChars (depth + 1) item ++ itemsBehind depth rest)) := by
  rw [itemsBehind, indentedItems_cons]

/-- The text of fields that stand behind others. -/
def fieldsBehind (depth : Nat) : List (String × Json) → List Char
  | [] => []
  | field :: rest => ',' :: indentedFields depth (field :: rest)

theorem indentedFields_cons (depth : Nat) (name : String) (value : Json)
    (rest : List (String × Json)) :
    indentedFields depth ((name, value) :: rest) =
      newLine (depth + 1) ++ (stringText name ++
        ':' :: ' ' :: (indentedChars (depth + 1) value ++ fieldsBehind depth rest)) := by
  cases rest <;> simp [indentedFields, fieldsBehind]

theorem fieldsBehind_cons (depth : Nat) (name : String) (value : Json)
    (rest : List (String × Json)) :
    fieldsBehind depth ((name, value) :: rest) = ',' :: (newLine (depth + 1) ++ (stringText name ++
      ':' :: ' ' :: (indentedChars (depth + 1) value ++ fieldsBehind depth rest))) := by
  rw [fieldsBehind, indentedFields_cons]

/-- What stands before an item or a field: a comma, unless it is the first, and blanks. -/
def separator (first : Bool) (blanks : List Char) : List Char :=
  if first then blanks else ',' :: blanks

theorem length_separator_pos (first : Bool) (depth : Nat) :
    0 < (separator first (newLine depth)).length := by
  cases first <;> simp [separator, newLine]

/-- The items of a list up to its closing bracket; when some were read before, a comma stands before
    the next. -/
def itemsText (depth : Nat) (first : Bool) (items : List Json) : List Char :=
  (if first then indentedItems depth items else itemsBehind depth items) ++ (newLine depth ++ [']'])

theorem itemsText_nil (depth : Nat) (first : Bool) :
    itemsText depth first [] = newLine depth ++ [']'] := by
  cases first <;> rfl

theorem itemsText_cons (depth : Nat) (first : Bool) (item : Json) (items : List Json) :
    itemsText depth first (item :: items) =
      separator first (newLine (depth + 1)) ++
        (item.indentedChars (depth + 1) ++ itemsText depth false items) := by
  cases first <;> simp [itemsText, separator, indentedItems_cons, itemsBehind_cons]

theorem length_lt_itemsText (depth : Nat) (first : Bool) (items : List Json) :
    items.length < (itemsText depth first items).length := by
  induction items generalizing first with
  | nil => simp [itemsText_nil]
  | cons item items ih =>
      have separated := length_separator_pos first (depth + 1)
      have others := ih false
      rw [itemsText_cons]
      simp only [List.length_cons, List.length_append]
      omega

/-- The fields of an object up to its closing brace, as `itemsText` for a list. -/
def fieldsText (depth : Nat) (first : Bool) (fields : List (String × Json)) : List Char :=
  (if first then indentedFields depth fields else fieldsBehind depth fields) ++
    (newLine depth ++ ['}'])

theorem fieldsText_nil (depth : Nat) (first : Bool) :
    fieldsText depth first [] = newLine depth ++ ['}'] := by
  cases first <;> rfl

theorem fieldsText_cons (depth : Nat) (first : Bool) (name : String) (value : Json)
    (fields : List (String × Json)) :
    fieldsText depth first ((name, value) :: fields) =
      separator first (newLine (depth + 1)) ++ (stringText name ++
        ':' :: (' ' :: value.indentedChars (depth + 1) ++ fieldsText depth false fields)) := by
  cases first <;> simp [fieldsText, separator, indentedFields_cons, fieldsBehind_cons]

theorem length_lt_fieldsText (depth : Nat) (first : Bool) (fields : List (String × Json)) :
    fields.length < (fieldsText depth first fields).length := by
  induction fields generalizing first with
  | nil => simp [fieldsText_nil]
  | cons field fields ih =>
      have others := ih false
      rw [fieldsText_cons]
      simp only [List.length_cons, List.length_append]
      omega

section Between

variable {blanks : List Char} (rest : List Char)

theorem nextItem_done (blank : ∀ c ∈ blanks, isBlank c = true) (first : Bool) (index : Nat) :
    ∃ after, nextItem first ⟨index, blanks ++ ']' :: rest⟩ = .ok (.done ⟨after, rest⟩) := by
  refine ⟨index + blanks.length + 1, ?_⟩
  rw [nextItem, skipBlanks_append blank, skipBlanks_cons rfl]
  rfl

theorem nextField_done (blank : ∀ c ∈ blanks, isBlank c = true) (first : Bool) (index : Nat) :
    ∃ after, nextField first ⟨index, blanks ++ '}' :: rest⟩ = .ok (.done ⟨after, rest⟩) := by
  refine ⟨index + blanks.length + 1, ?_⟩
  rw [nextField, skipBlanks_append blank, skipBlanks_cons rfl]
  rfl

theorem skipBlanks_string (blank : ∀ c ∈ blanks, isBlank c = true) (index : Nat) (text : String) :
    (⟨index, blanks ++ (stringText text ++ rest)⟩ : Cursor).skipBlanks =
      ⟨index + blanks.length, '"' :: (text.toList.flatMap escapedChar ++ ['"'] ++ rest)⟩ := by
  rw [skipBlanks_append blank]
  exact skipBlanks_cons (c := '"') rfl _ _

theorem past_comma (index : Nat) (text rest : List Char) :
    (⟨index, text⟩ : Cursor).past ',' rest = ⟨index + 1, rest⟩ := rfl

/-- An item is met at its first character, which is neither a blank nor the closing bracket. -/
theorem nextItem_more (blank : ∀ c ∈ blanks, isBlank c = true)
    {c : Char} (visible : isBlank c = false) (open_ : c ≠ ']') (first : Bool)
    (index : Nat) :
    ∃ after, nextItem first ⟨index, separator first blanks ++ c :: rest⟩ =
      .ok (.more ⟨after, c :: rest⟩) := by
  have open_ : (c == ']') = false := beq_eq_false_iff_ne.mpr open_
  cases first with
  | true =>
      refine ⟨index + blanks.length, ?_⟩
      rw [nextItem, separator, if_pos rfl, skipBlanks_append blank, skipBlanks_cons visible]
      simp [open_]
  | false =>
      refine ⟨index + 1 + blanks.length, ?_⟩
      have ahead := skipBlanks_append blank (index + 1) (c :: rest)
      rw [skipBlanks_cons visible] at ahead
      rw [nextItem, separator, if_neg Bool.false_ne_true, List.cons_append,
        skipBlanks_cons (c := ',') rfl]
      simp [past_comma, ahead, open_]

theorem nextItem_string (blank : ∀ c ∈ blanks, isBlank c = true) (first : Bool) (index : Nat)
    (text : String) :
    ∃ after, nextItem first ⟨index, separator first blanks ++ (stringText text ++ rest)⟩ =
      .ok (.more ⟨after, stringText text ++ rest⟩) :=
  nextItem_more (text.toList.flatMap escapedChar ++ ['"'] ++ rest) blank (c := '"') rfl (by decide)
    first index

/-- A field's name is read with its quotes. -/
theorem nextField_name (blank : ∀ c ∈ blanks, isBlank c = true) (first : Bool) (index : Nat)
    (name : String) :
    ∃ between after,
      nextField first ⟨index, separator first blanks ++ (stringText name ++ rest)⟩ =
        .ok (.more between) ∧ stringBody between = .ok (name, ⟨after, rest⟩) := by
  cases first with
  | true =>
      obtain ⟨after, read⟩ := reads_stringBody name (index + blanks.length + 1) rest
      refine ⟨_, after, ?_, read⟩
      rw [nextField, separator, if_pos rfl, skipBlanks_string rest blank]
      rfl
  | false =>
      obtain ⟨after, read⟩ := reads_stringBody name (index + 1 + blanks.length + 1) rest
      refine ⟨_, after, ?_, read⟩
      have start := skipBlanks_string rest blank (index + 1) name
      rw [nextField, separator, if_neg Bool.false_ne_true, List.cons_append,
        skipBlanks_cons (c := ',') rfl]
      simp [past_comma, start]
      rfl

theorem colon_ahead (index : Nat) :
    colon ⟨index, ':' :: rest⟩ = .ok ⟨index + 1, rest⟩ := by
  rw [colon, skipBlanks_cons rfl]
  rfl

end Between

end Phrasebook.Json
