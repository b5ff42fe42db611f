import Phrasebook.Json.Fault

/-! # Values of an expected shape

Readers of a value that was parsed completely. They refuse with a reason and no position, because
the text is no longer at hand.
-/

namespace Phrasebook.Json

/-- Refuse a value of the wrong kind. -/
def mismatch (value : Json) (expected : String) : Reason :=
  .wrongType value.found expected

def asString : Json → Except Reason String
  | .string text => .ok text
  | other => .error (other.mismatch "a string")

def asBool : Json → Except Reason Bool
  | .bool value => .ok value
  | other => .error (other.mismatch "a boolean")

def asUnit : Json → Except Reason Unit
  | .null => .ok ()
  | other => .error (other.mismatch "unit")

/-- A value as a list, every item read by `read`. The first item that is refused decides. -/
def asList {α : Type} (read : Json → Except Reason α) : Json → Except Reason (List α)
  | .array items => items.mapM read
  | other => .error (other.mismatch "a sequence")

/-- A name out of a fixed list, alone or as the one key of an object that holds null. -/
def asVariant {α : Type} (known : List (String × α)) (value : Json) : Except Reason α :=
  match value with
  | .string given => choose given
  | .object [(given, inner)] => do
      let chosen ← choose given
      inner.asUnit
      .ok chosen
  | .object _ => .error .notOneKey
  | other => .error (other.mismatch "string or map")
where
  choose (given : String) : Except Reason α :=
    match known.lookup given with
    | some chosen => .ok chosen
    | none => .error (.unknownVariant given (known.map Prod.fst))

/-- One field of a record: its name, other names it goes by, and what a value does to the record. -/
structure Field (ρ : Type) where
  name : String
  aliases : List String := []
  read : Json → ρ → Except Reason ρ

/-- The field that a name means. -/
def Field.find? {ρ : Type} (schema : List (Field ρ)) (name : String) : Option (Field ρ) :=
  schema.find? fun field => field.name == name || field.aliases.contains name

/-- Read the items of an array into the fields of a record, in the order of the schema. -/
def readItems {ρ : Type} : List (Field ρ) → List Json → ρ → Except Reason ρ
  | field :: schema, item :: items, record => do
      readItems schema items (← field.read item record)
  | _, _, record => .ok record

/-- Read named fields into a record. Names the schema does not know are passed over, and no field
    may be given twice, under whatever names. -/
def readFields {ρ : Type} (schema : List (Field ρ)) :
    List String → List (String × Json) → ρ → Except Reason ρ
  | _, [], record => .ok record
  | seen, (name, value) :: rest, record =>
      match Field.find? schema name with
      | none => readFields schema seen rest record
      | some field =>
          if seen.contains field.name then .error (.duplicateField field.name)
          else do
            let record ← field.read value record
            readFields schema (field.name :: seen) rest record

/-- A value as a record that starts from `default`: an object of its fields, or an array of them in
    order, which may stop early. -/
def asRecord {ρ : Type} (what : String) (schema : List (Field ρ)) (default : ρ) :
    Json → Except Reason ρ
  | .object fields => readFields schema [] fields default
  | .array items => do
      let record ← readItems schema items default
      if items.length ≤ schema.length then .ok record else .error (.wrongLength items.length)
  | other => .error (other.mismatch ("struct " ++ what))

end Phrasebook.Json
