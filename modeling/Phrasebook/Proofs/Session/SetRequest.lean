import Phrasebook.Proofs.Json.Embedding
import Phrasebook.Proofs.Session.Run

/-! # A request that supplies a dictionary

The request holds the text of a dictionary as it is, two levels deep. It is read as what the text
alone is read as, unless that is too deep there.
-/

namespace Phrasebook

open Json

/-- A request to use the dictionary of a text. Both texts stand in it as they are, the one of its
    identifier and the one of the entries. -/
def setRequest (id text : String) : String :=
  "\x7b\"id\":" ++ id ++ ",\"cmd\":\"dictionary.set\",\"payload\":\x7b\"entries\":" ++ text ++
    "\x7d\x7d"

/-! ## Reading the request -/

/-- The request from the text of the entries on. -/
def entriesOn (text : List Char) : List Char :=
  text ++ ['}', '}']

def payloadOn (text : List Char) : List Char :=
  ',' :: (stringText "payload" ++ ':' :: '{' :: (stringText "entries" ++ ':' :: entriesOn text))

def commandOn (text : List Char) : List Char :=
  ',' :: (stringText "cmd" ++ ':' :: (stringText "dictionary.set" ++ payloadOn text))

theorem toList_setRequest (id text : String) :
    (setRequest id text).toList =
      '{' :: (stringText "id" ++ ':' :: (id.toList ++ commandOn text.toList)) := by
  simp [setRequest, commandOn, payloadOn, entriesOn, stringText, escapedChar]


theorem nextField_append {blanks : List Char} (blank : ∀ c ∈ blanks, isBlank c = true)
    (first : Bool) (index : Nat) (rest : List Char) :
    nextField first ⟨index, blanks ++ rest⟩ = nextField first ⟨index + blanks.length, rest⟩ := by
  rw [nextField, nextField, skipBlanks_append blank]

/-- A field is read by its name and its value. -/
theorem fields_named {blanks : List Char} (blank : ∀ c ∈ blanks, isBlank c = true)
    (steps depth : Nat) (first : Bool) (before : List (String × Json)) (index : Nat)
    (name : String) (rest : List Char) :
    ∃ after, fields (steps + 1) depth first before
        ⟨index, blanks ++ (separator first [] ++ (stringText name ++ ':' :: rest))⟩ =
      value steps depth ⟨after, rest⟩ >>= fun read =>
        fields steps depth false (insertField name read.1 before) read.2 := by
  obtain ⟨between, after, ahead, named⟩ := nextField_name (':' :: rest)
    (List.forall_mem_nil (isBlank · = true)) first (index + blanks.length) name
  refine ⟨after + 1, ?_⟩
  rw [fields, nextField_append blank, ahead]
  simp only [bind, Except.bind, named, colon_ahead]

/-- What the payload is read as depends on what the text of the entries is read as. -/
theorem value_payload (steps depth index : Nat) (text : List Char) :
    ∃ after, value (steps + 2) (depth + 2)
        ⟨index, '{' :: (stringText "entries" ++ ':' :: entriesOn text)⟩ =
      (do let entries ← value steps (depth + 1) ⟨after, entriesOn text⟩
          let payload ← fields steps (depth + 1) false [("entries", entries.1)] entries.2
          .ok (.object payload.1, payload.2)) := by
  obtain ⟨after, named⟩ := fields_named (List.forall_mem_nil (isBlank · = true)) steps (depth + 1)
    true [] (index + 1) "entries" (entriesOn text)
  refine ⟨after, ?_⟩
  rw [value_object]
  simp only [separator, if_true, List.nil_append] at named
  rw [named]
  cases value steps (depth + 1) ⟨after, entriesOn text⟩ with
  | error fault => rfl
  | ok read => rfl

/-- Behind the identifier of a request stand the command and then the payload. -/
theorem fields_commandOn {blanks : List Char} (blank : ∀ c ∈ blanks, isBlank c = true)
    (steps depth index : Nat) (given : Json) (text : List Char)
    (fits : (stringText "dictionary.set").length ≤ steps + 3) :
    ∃ after, fields (steps + 4) depth false [("id", given)] ⟨index, blanks ++ commandOn text⟩ =
      (do let payload ← value (steps + 2) depth
            ⟨after, '{' :: (stringText "entries" ++ ':' :: entriesOn text)⟩
          fields (steps + 2) depth false
            [("cmd", .string "dictionary.set"), ("id", given), ("payload", payload.1)]
            payload.2) := by
  obtain ⟨commandAt, named⟩ := fields_named blank (steps + 3) depth false [("id", given)] index
    "cmd" (stringText "dictionary.set" ++ payloadOn text)
  obtain ⟨payloadFrom, command⟩ := (rereads_string depth "dictionary.set").reads 0 (steps + 3) fits
    commandAt (payloadOn text)
  obtain ⟨payloadAt, payload⟩ := fields_named (List.forall_mem_nil (isBlank · = true)) (steps + 2)
    depth false [("cmd", .string "dictionary.set"), ("id", given)] payloadFrom "payload"
    ('{' :: (stringText "entries" ++ ':' :: entriesOn text))
  have behind : value (steps + 3) depth ⟨commandAt, stringText "dictionary.set" ++ payloadOn text⟩ =
      .ok (.string "dictionary.set", ⟨payloadFrom, payloadOn text⟩) := command
  rw [behind] at named
  exact ⟨payloadAt, named.trans payload⟩

/-- What a request is read as depends on what the text of the entries is read as, where it may be
    too deep; so may its identifier. -/
theorem value_setRequest {id : String} {given : Json} (identified : Json.parse id = .ok given)
    (text : String) :
    let line := (setRequest id text).toList
    (∃ place, value (stepsFor line) depthLimit ⟨0, line⟩ = .error ⟨.tooDeep, place⟩) ∨
      ∃ steps index, 2 * (entriesOn text.toList).length + 1 ≤ steps ∧
        value (stepsFor line) depthLimit ⟨0, line⟩ =
          (do let entries ← value steps (depthLimit - 2) ⟨index, entriesOn text.toList⟩
              let payload ← fields steps (depthLimit - 2) false [("entries", entries.1)] entries.2
              let all ← fields (steps + 2) (depthLimit - 1) false
                [("cmd", .string "dictionary.set"), ("id", given),
                  ("payload", .object payload.1)] payload.2
              .ok (.object all.1, all.2)) := by
  intro line
  have shape : line = '{' :: (stringText "id" ++ ':' :: (id.toList ++ commandOn text.toList)) :=
    toList_setRequest id text
  have longer : (entriesOn text.toList).length + (stringText "dictionary.set").length + 2 ≤
      (commandOn text.toList).length := by
    simp only [commandOn, payloadOn, List.length_cons, List.length_append]
    omega
  obtain ⟨steps, steps_eq, enough⟩ : ∃ steps, stepsFor line = steps + 6 ∧
      2 * (id.toList.length + (commandOn text.toList).length) + 1 ≤ steps + 4 := by
    refine ⟨stepsFor line - 6, ?_, ?_⟩ <;>
    · simp only [stepsFor, shape, List.length_cons, List.length_append]
      omega
  obtain ⟨start, named⟩ := fields_named (List.forall_mem_nil (isBlank · = true)) (steps + 4)
    (depthLimit - 1) true [] 1 "id" (id.toList ++ commandOn text.toList)
  have whole : value (stepsFor line) depthLimit ⟨0, line⟩ =
      (do let item ← value (steps + 4) (depthLimit - 1)
            ⟨start, id.toList ++ commandOn text.toList⟩
          fields (steps + 4) (depthLimit - 1) false [("id", item.1)] item.2).map
            fun all : List (String × Json) × Cursor => (.object all.1, all.2) := by
    rw [steps_eq, shape]
    exact (value_object (steps + 5) 126 0 _).trans (congrArg (Except.map _) named)
  have comma : Text.StartsOutside continuesNumber (commandOn text.toList) :=
    Text.startsOutside_cons.mpr rfl
  rw [whole]
  rcases value_within comma enough (Nat.sub_le depthLimit 1) start identified with
    ⟨place, deep⟩ | ⟨after, blanks, blank, read⟩
  · rw [deep]
    exact .inl ⟨place, rfl⟩
  · obtain ⟨payloadAt, command⟩ := fields_commandOn blank steps (depthLimit - 1) after given
      text.toList (by omega)
    obtain ⟨entriesAt, payload⟩ := value_payload steps (depthLimit - 3) payloadAt text.toList
    have payload : value (steps + 2) (depthLimit - 1)
          ⟨payloadAt, '{' :: (stringText "entries" ++ ':' :: entriesOn text.toList)⟩ =
        (do let entries ← value steps (depthLimit - 2) ⟨entriesAt, entriesOn text.toList⟩
            let payload ← fields steps (depthLimit - 2) false [("entries", entries.1)] entries.2
            .ok (.object payload.1, payload.2)) :=
      payload
    refine .inr ⟨steps, entriesAt, by omega, ?_⟩
    rw [read]
    refine (congrArg (Except.map _) (command.trans (congrArg (· >>= _) payload))).trans ?_
    cases value steps (depthLimit - 2) ⟨entriesAt, entriesOn text.toList⟩ with
    | error fault => rfl
    | ok entriesRead =>
        obtain ⟨entries, behind⟩ := entriesRead
        cases closed : fields steps (depthLimit - 2) false [("entries", entries)] behind with
        | error fault => simp only [bind, Except.bind, closed, Except.map]
        | ok payloadRead => simp only [bind, Except.bind, closed, Except.map]

section

variable {id text : String} {given : Json}

/-- The text of the entries ends where the braces begin. -/
theorem startsOutside_braces : Text.StartsOutside continuesNumber ['}', '}'] :=
  Text.startsOutside_cons.mpr rfl

theorem parse_setRequest (identified : Json.parse id = .ok given) {entries : Json}
    (parsed : Json.parse text = .ok entries)
    (shallow : ∀ error, Json.parse (setRequest id text) = .error error → error.reason ≠ .tooDeep) :
    Json.parse (setRequest id text) = .ok (.object
      [("cmd", .string "dictionary.set"), ("id", given),
        ("payload", .object [("entries", entries)])]) := by
  rcases value_setRequest identified text with ⟨place, deep⟩ | ⟨steps, index, enough, whole⟩
  · exact absurd rfl (shallow _ (parse_of_value_error deep))
  · rcases value_within startsOutside_braces (by simpa [entriesOn] using enough)
      (Nat.sub_le depthLimit 2) index parsed with ⟨place, deep⟩ | ⟨after, blanks, blank, read⟩
    · rw [entriesOn, deep] at whole
      exact absurd rfl (shallow _ (parse_of_value_error whole))
    · have inner : Reads (fields steps (depthLimit - 2) false [("entries", entries)])
          (blanks ++ ['}']) [("entries", entries)] :=
        fields_done blank false _ (by omega)
      have outer : Reads (fields (steps + 2) (depthLimit - 1) false
            [("cmd", .string "dictionary.set"), ("id", given),
              ("payload", .object [("entries", entries)])])
          ['}'] _ :=
        fields_done (List.forall_mem_nil (isBlank · = true)) false _ (by omega)
      obtain ⟨between, innerRead⟩ := inner after ['}']
      obtain ⟨last, outerRead⟩ := outer between []
      rw [List.append_assoc] at innerRead
      simp only [entriesOn, List.cons_append, List.nil_append] at innerRead outerRead whole
      rw [read] at whole
      simp only [bind, Except.bind, innerRead, outerRead] at whole
      exact parse_of_value whole

theorem parse_setRequest_refused (identified : Json.parse id = .ok given) {error : Json.Error}
    (refused : Json.parse text = .error error) (finished : error.reason.isUnfinished = false)
    (ended : error.reason ≠ .trailingCharacters) :
    ∃ errorToo, Json.parse (setRequest id text) = .error errorToo := by
  rcases value_setRequest identified text with ⟨place, deep⟩ | ⟨steps, index, enough, whole⟩
  · exact ⟨_, parse_of_value_error deep⟩
  · obtain ⟨fault, within⟩ := refused_within startsOutside_braces
      (by simpa [entriesOn] using enough) (Nat.sub_le depthLimit 2) index refused finished ended
    rw [entriesOn, within] at whole
    exact ⟨_, parse_of_value_error whole⟩

end

end Phrasebook
