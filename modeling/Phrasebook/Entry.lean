import Phrasebook.Json.Decode
import Phrasebook.Language

/-! # Dictionary entries

One thing with its name in each language. An empty name means that the language has none: it is
never looked up and never written in place of another.
-/

namespace Phrasebook

/-- The names of one thing. -/
structure Entry where
  en : String := ""
  de : String := ""
  fr : String := ""
  deriving Repr, DecidableEq, Inhabited

namespace Entry

def name (entry : Entry) : Language → String
  | .en => entry.en
  | .de => entry.de
  | .fr => entry.fr

/-- The names in the order of the languages. -/
def names (entry : Entry) : List String :=
  Language.all.map entry.name

/-- The fields of an entry in the order in which files list them. -/
def schema : List (Json.Field Entry) :=
  [ { name := "en", read := fun value entry => do .ok { entry with en := ← value.asString } },
    { name := "de", read := fun value entry => do .ok { entry with de := ← value.asString } },
    { name := "fr", read := fun value entry => do .ok { entry with fr := ← value.asString } } ]

/-- The entry that a value describes; a missing name is empty. -/
def ofJson (value : Json) : Except Json.Reason Entry :=
  value.asRecord "Entry" schema {}

/-- The fields of an entry with their values, in the order of the schema. -/
def fields (entry : Entry) : List (String × Json) :=
  Language.all.map fun language => (language.code, .string (entry.name language))

def toJson (entry : Entry) : Json :=
  Json.ofFields entry.fields

/-- The document that holds a list of entries. -/
def document (entries : List Entry) : Json :=
  .array (entries.map fun entry => .object entry.fields)

end Entry
end Phrasebook
