import Phrasebook.Index

/-! # Deduplication

One entry per English name: the first, whatever the case of the name and the white space around it.
Entries without an English name are dropped.
-/

namespace Phrasebook

/-- The key by which entries count as the same. -/
def Entry.englishKey (entry : Entry) : String :=
  Text.lowercase (Text.trimWhite entry.en)

/-- The entries to keep, given the keys that were seen before them. -/
def dedupeFrom (seen : List String) : List Entry → List Entry
  | [] => []
  | entry :: rest =>
      let key := entry.englishKey
      if key = "" ∨ key ∈ seen then dedupeFrom seen rest
      else entry :: dedupeFrom (key :: seen) rest

/-- The first entry of every English name, in order. -/
def dedupe (entries : List Entry) : List Entry :=
  dedupeFrom [] entries

@[simp]
theorem dedupe_nil : dedupe [] = [] := rfl

end Phrasebook
