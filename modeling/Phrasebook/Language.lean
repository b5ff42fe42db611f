import Phrasebook.Text.Lowercase
import Phrasebook.Text.Space

/-! # Languages

The three languages that names are kept in, and the codes they go by.
-/

namespace Phrasebook

/-- A language that names are kept in. -/
inductive Language where
  | en
  | de
  | fr
  deriving Repr, DecidableEq

namespace Language

/-- All languages, in the order in which the fields of an entry are read. -/
def all : List Language :=
  [.en, .de, .fr]

def code : Language → String
  | .en => "en"
  | .de => "de"
  | .fr => "fr"

/-- The codes with their languages. -/
def byCode : List (String × Language) :=
  all.map fun language => (language.code, language)

/-- The language of a code, in any ASCII case and with white space around it. -/
def ofCode? (given : String) : Option Language :=
  byCode.lookup (Text.lowerAscii (Text.trimWhite given))

theorem mem_all (language : Language) : language ∈ all := by
  cases language <;> simp [all]

end Language
end Phrasebook
