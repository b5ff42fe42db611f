import Phrasebook.Json.Decode
import Phrasebook.Language

/-! # Settings

What is kept between runs: the language to translate into, where dictionaries come from, and whether
a dictionary is deduplicated when it is loaded.
-/

namespace Phrasebook

structure Settings where
  targetLanguage : Language := .fr
  dictionarySources : List String := ["dictionary.deduped.json", "dictionary.json"]
  dedupeOnLoad : Bool := false
  deriving Repr, DecidableEq

namespace Settings

inductive Key where
  | targetLanguage
  | dictionarySources
  | dedupeOnLoad
  deriving Repr, DecidableEq

namespace Key

/-- All keys in the order in which files list them. -/
def all : List Key :=
  [.targetLanguage, .dictionarySources, .dedupeOnLoad]

def name : Key → String
  | .targetLanguage => "target_language"
  | .dictionarySources => "dictionary_sources"
  | .dedupeOnLoad => "dedupe_on_load"

/-- Other names that a setting goes by. -/
def aliases : Key → List String
  | .targetLanguage => ["target"]
  | _ => []

/-- The setting that a name means. -/
def ofName? (given : String) : Option Key :=
  all.find? fun key => key.name == given || key.aliases.contains given

end Key

/-- Settings with one of them read from a value. -/
def update (key : Key) (value : Json) (settings : Settings) : Except Json.Reason Settings :=
  match key with
  | .targetLanguage => do .ok { settings with targetLanguage := ← value.asVariant Language.byCode }
  | .dictionarySources => do
      .ok { settings with dictionarySources := ← value.asList Json.asString }
  | .dedupeOnLoad => do .ok { settings with dedupeOnLoad := ← value.asBool }

/-- The fields of settings in the order in which files list them. -/
def schema : List (Json.Field Settings) :=
  Key.all.map fun key => { name := key.name, aliases := key.aliases, read := update key }

/-- The settings that a value describes; what is missing has its default. -/
def ofJson (value : Json) : Except Json.Reason Settings :=
  value.asRecord "Settings" schema {}

def value (settings : Settings) : Key → Json
  | .targetLanguage => .string settings.targetLanguage.code
  | .dictionarySources => .array (settings.dictionarySources.map .string)
  | .dedupeOnLoad => .bool settings.dedupeOnLoad

/-- The settings with their values, in the order in which files list them. -/
def fields (settings : Settings) : List (String × Json) :=
  Key.all.map fun key => (key.name, settings.value key)

def toJson (settings : Settings) : Json :=
  Json.ofFields settings.fields

/-- The document that holds settings. -/
def document (settings : Settings) : Json :=
  .object settings.fields

end Settings
end Phrasebook
