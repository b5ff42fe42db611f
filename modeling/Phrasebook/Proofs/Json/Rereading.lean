import Phrasebook.Proofs.Json.Reading

/-! # Indented values read back

What is printed over several lines is read as what was printed, but that the fields of an object are
sorted. A list is read back if its items are, and an object if its fields are. Every step of the
reader takes a character, so as many steps as there are characters are enough.
-/

namespace Phrasebook.Json

/-- Wherever it is printed with indentation, a value is read as another; `depth` is one more than
    the levels that it may open. -/
structure Rereads (depth : Nat) (printed read : Json) : Prop where
  opens : ∀ margin, ∃ c text, printed.indentedChars margin = c :: text ∧ isBlank c = false ∧ c ≠ ']'
  reads : ∀ margin steps, (printed.indentedChars margin).length ≤ steps →
    Reads (value steps depth) (printed.indentedChars margin) read

/-- A reader of values passes over blanks first. -/
theorem value_skipBlanks (steps depth : Nat) (cursor : Cursor) :
    value (steps + 1) depth cursor.skipBlanks = value (steps + 1) depth cursor := by
  rw [value, value, skipBlanks_skipBlanks]

theorem rereads_string (depth : Nat) (text : String) :
    Rereads depth (.string text) (.string text) := by
  refine ⟨fun margin => ⟨'"', _, rfl, rfl, by decide⟩, fun margin steps enough index rest => ?_⟩
  obtain ⟨steps, rfl⟩ : ∃ more, steps = more + 1 := by
    refine Nat.exists_eq_succ_of_ne_zero fun none => ?_
    simp [none, indentedChars, compactChars, stringText] at enough
  obtain ⟨after, read⟩ := scalar?_string text index rest
  refine ⟨after, ?_⟩
  unfold value
  simp only [indentedChars, compactChars, stringText, List.cons_append] at read ⊢
  rw [skipBlanks_cons (c := '"') rfl]
  simp only [read]

/-! ## Lists -/

section Lists

variable {α : Type} {printed read : α → Json} {depth : Nat}

theorem items_done {blanks : List Char} (blank : ∀ c ∈ blanks, isBlank c = true) (first : Bool)
    {steps : Nat} (enough : 0 < steps) :
    Reads (items steps depth first) (blanks ++ [']']) [] := by
  intro index rest
  obtain ⟨steps, rfl⟩ : ∃ more, steps = more + 1 :=
    Nat.exists_eq_succ_of_ne_zero (Nat.ne_of_gt enough)
  obtain ⟨after, ahead⟩ := nextItem_done rest blank first index
  refine ⟨after, ?_⟩
  rw [List.append_assoc, List.singleton_append, items]
  simp only [ahead, bind, Except.bind]

theorem reads_items (margin : Nat) {list : List α}
    (each : ∀ item ∈ list, Rereads depth (printed item) (read item)) (first : Bool) {steps : Nat}
    (enough : (itemsText margin first (list.map printed)).length ≤ steps) :
    Reads (items steps depth first) (itemsText margin first (list.map printed))
      (list.map read) := by
  induction list generalizing steps first with
  | nil =>
      rw [List.map_nil, itemsText_nil] at enough ⊢
      exact items_done (isBlank_newLine margin) first (by simp at enough; omega)
  | cons item list ih =>
      intro index rest
      obtain ⟨here, others⟩ := List.forall_mem_cons.mp each
      obtain ⟨c, text, shape, visible, open_⟩ := here.opens (margin + 1)
      rw [List.map_cons, itemsText_cons] at enough ⊢
      have separated := length_separator_pos first (margin + 1)
      simp only [List.length_append] at enough
      obtain ⟨steps, rfl⟩ : ∃ more, steps = more + 1 :=
        Nat.exists_eq_succ_of_ne_zero (by omega)
      obtain ⟨between, ahead⟩ := nextItem_more
        (text ++ (itemsText margin false (list.map printed) ++ rest))
        (isBlank_newLine (margin + 1)) visible open_ first index
      obtain ⟨next, readHere⟩ := here.reads (margin + 1) steps (by omega) between
        (itemsText margin false (list.map printed) ++ rest)
      have fewer : (itemsText margin false (list.map printed)).length ≤ steps := by omega
      obtain ⟨after, readOthers⟩ := ih others false fewer next rest
      refine ⟨after, ?_⟩
      simp only [shape, List.cons_append, List.append_assoc] at readHere ⊢
      rw [items]
      simp only [ahead, bind, Except.bind, readHere, readOthers, List.map_cons]

theorem value_array (steps depth index : Nat) (rest : List Char) :
    value (steps + 1) (depth + 2) ⟨index, '[' :: rest⟩ =
      (items steps (depth + 1) true ⟨index + 1, rest⟩).map fun (all, next) =>
        (.array all, next) := by
  rw [value, skipBlanks_cons (c := '[') rfl]
  rfl

theorem rereads_array {list : List α}
    (each : ∀ item ∈ list, Rereads (depth + 1) (printed item) (read item)) :
    Rereads (depth + 2) (.array (list.map printed)) (.array (list.map read)) := by
  -- The text behind the bracket; an empty list has no line of its own.
  have body (margin : Nat) : ∃ text,
      (Json.array (list.map printed)).indentedChars margin = '[' :: text ∧
        ∀ steps, text.length ≤ steps →
          Reads (items steps (depth + 1) true) text (list.map read) := by
    cases list with
    | nil =>
        exact ⟨[']'], rfl, fun steps enough => items_done (List.forall_mem_nil _) true enough⟩
    | cons item list =>
        exact ⟨itemsText margin true ((item :: list).map printed),
          by simp [indentedChars, itemsText],
          fun steps enough => reads_items margin each true enough⟩
  refine ⟨fun margin => ?_, fun margin steps enough index rest => ?_⟩
  · obtain ⟨text, shape, -⟩ := body margin
    exact ⟨'[', text, shape, rfl, by decide⟩
  · obtain ⟨text, shape, reads⟩ := body margin
    rw [shape] at enough ⊢
    obtain ⟨steps, rfl⟩ : ∃ more, steps = more + 1 :=
      Nat.exists_eq_succ_of_ne_zero (by rw [List.length_cons] at enough; omega)
    obtain ⟨after, readAll⟩ := reads steps (by simpa using enough) (index + 1) rest
    refine ⟨after, ?_⟩
    rw [List.cons_append, value_array, readAll]
    rfl

end Lists

/-! ## Objects -/

section Objects

variable {α : Type} {name : α → String} {printed read : α → Json} {depth : Nat}

theorem fields_done {blanks : List Char} (blank : ∀ c ∈ blanks, isBlank c = true) (first : Bool)
    (before : List (String × Json)) {steps : Nat} (enough : 0 < steps) :
    Reads (fields steps depth first before) (blanks ++ ['}']) before := by
  intro index rest
  obtain ⟨steps, rfl⟩ : ∃ more, steps = more + 1 :=
    Nat.exists_eq_succ_of_ne_zero (Nat.ne_of_gt enough)
  obtain ⟨after, ahead⟩ := nextField_done rest blank first index
  refine ⟨after, ?_⟩
  rw [List.append_assoc, List.singleton_append, fields]
  simp only [ahead, bind, Except.bind]

theorem reads_fields (margin : Nat) {list : List α}
    (each : ∀ item ∈ list, Rereads depth (printed item) (read item)) (first : Bool)
    (before : List (String × Json)) {steps : Nat}
    (enough : (fieldsText margin first
      (list.map fun item => (name item, printed item))).length ≤ steps) :
    Reads (fields steps depth first before)
      (fieldsText margin first (list.map fun item => (name item, printed item)))
      ((list.map fun item => (name item, read item)).foldl
        (fun sorted (name, value) => insertField name value sorted) before) := by
  induction list generalizing steps first before with
  | nil =>
      rw [List.map_nil, fieldsText_nil] at enough ⊢
      exact fields_done (isBlank_newLine margin) first before (by simp at enough; omega)
  | cons item list ih =>
      intro index rest
      obtain ⟨here, others⟩ := List.forall_mem_cons.mp each
      rw [List.map_cons, fieldsText_cons] at enough ⊢
      have separated := length_separator_pos first (margin + 1)
      simp only [List.length_append, List.length_cons] at enough
      obtain ⟨steps, rfl⟩ : ∃ more, steps = more + 2 := ⟨steps - 2, by omega⟩
      let tail := fieldsText margin false (list.map fun item => (name item, printed item))
      obtain ⟨between, named, ahead, nameRead⟩ := nextField_name
        (':' :: (' ' :: (printed item).indentedChars (margin + 1) ++ (tail ++ rest)))
        (isBlank_newLine (margin + 1)) first index (name item)
      have space : ∀ c ∈ [' '], isBlank c = true := List.forall_mem_singleton.mpr rfl
      have spaced := (here.reads (margin + 1) (steps + 1) (by omega)).behind
        (value_skipBlanks steps depth) space
      obtain ⟨next, readHere⟩ := spaced (named + 1) (tail ++ rest)
      have fewer : tail.length ≤ steps + 1 := by
        dsimp only [tail]
        omega
      obtain ⟨after, readOthers⟩ := ih others false
        (insertField (name item) (read item) before) fewer next rest
      refine ⟨after, ?_⟩
      simp only [List.cons_append, List.append_assoc, List.nil_append] at ahead nameRead readHere ⊢
      rw [fields]
      simp only [ahead, bind, Except.bind, nameRead, colon_ahead, readHere, tail, readOthers,
        List.map_cons, List.foldl_cons]

theorem value_object (steps depth index : Nat) (rest : List Char) :
    value (steps + 1) (depth + 2) ⟨index, '{' :: rest⟩ =
      (fields steps (depth + 1) true [] ⟨index + 1, rest⟩).map fun (all, next) =>
        (.object all, next) := by
  rw [value, skipBlanks_cons (c := '{') rfl]
  rfl

theorem rereads_object {list : List α}
    (each : ∀ item ∈ list, Rereads (depth + 1) (printed item) (read item)) :
    Rereads (depth + 2) (.object (list.map fun item => (name item, printed item)))
      (ofFields (list.map fun item => (name item, read item))) := by
  have body (margin : Nat) : ∃ text,
      (Json.object (list.map fun item => (name item, printed item))).indentedChars margin =
          '{' :: text ∧
        ∀ steps, text.length ≤ steps → Reads (fields steps (depth + 1) true []) text
          ((list.map fun item => (name item, read item)).foldl
            (fun sorted (name, value) => insertField name value sorted) []) := by
    cases list with
    | nil =>
        exact ⟨['}'], rfl, fun steps enough => fields_done (List.forall_mem_nil _) true [] enough⟩
    | cons item list =>
        exact ⟨fieldsText margin true ((item :: list).map fun item => (name item, printed item)),
          by simp [indentedChars, fieldsText],
          fun steps enough => reads_fields margin each true [] enough⟩
  refine ⟨fun margin => ?_, fun margin steps enough index rest => ?_⟩
  · obtain ⟨text, shape, -⟩ := body margin
    exact ⟨'{', text, shape, rfl, by decide⟩
  · obtain ⟨text, shape, reads⟩ := body margin
    rw [shape] at enough ⊢
    obtain ⟨steps, rfl⟩ : ∃ more, steps = more + 1 :=
      Nat.exists_eq_succ_of_ne_zero (by rw [List.length_cons] at enough; omega)
    obtain ⟨after, readAll⟩ := reads steps (by simpa using enough) (index + 1) rest
    refine ⟨after, ?_⟩
    rw [List.cons_append, value_object, readAll]
    rfl

end Objects

/-- A document that is printed over several lines is read back. -/
theorem parse_indented {printed read : Json} (rereads : Rereads depthLimit printed read) :
    parse printed.indented = .ok read := by
  let text := printed.indentedChars 0
  have enough : text.length ≤ stepsFor text := by
    unfold stepsFor
    omega
  obtain ⟨after, readAll⟩ := rereads.reads 0 (stepsFor text) enough 0 []
  rw [List.append_nil] at readAll
  have chars : readChars printed.indented.toList = .ok read := by
    simp [readChars, indented, Cursor.start, text, readAll, bind, Except.bind, endOfText,
      Cursor.skipBlanks]
  rw [parse, chars]
  rfl

end Phrasebook.Json
