import Phrasebook.Index

/-! # Collisions

A key that entries with different names claim. The last of them wins it; the others cannot be found
under that key.
-/

namespace Phrasebook

/-- A contested key, the entry that is found under it, and those that are not. -/
structure Collision where
  key : String
  winner : Entry
  shadowed : List Entry
  deriving Repr, DecidableEq

namespace Collision

/-- The places of the entries that write each key, by key. The keys stand in the order in which they
    were first written. -/
abbrev Slots := List (String × List Nat)

/-- A place after those that were noted, unless it is the one that was noted last. -/
def noted (slot : List Nat) (place : Nat) : List Nat :=
  if slot.getLast? = some place then slot else slot ++ [place]

/-- Note that the entry at a place writes a key. -/
def note (key : String) (place : Nat) : Slots → Slots
  | [] => [(key, [place])]
  | (other, slot) :: rest =>
      if other = key then (other, noted slot place) :: rest
      else (other, slot) :: note key place rest

/-- The slots that all writes of a dictionary fill. -/
def slots (entries : List Entry) : Slots :=
  (places entries).foldl (fun filled (key, place) => note key place filled) []

/-- The collision at a key with the given writers, if they differ. -/
def among? (key : String) (writers : List Entry) : Option Collision :=
  match writers.getLast? with
  | none => none
  | some winner =>
      match (writers.filter fun entry => entry != winner).eraseDups with
      | [] => none
      | shadowed => some ⟨key, winner, shadowed⟩

/-- The collisions of a dictionary, in the order in which their keys were first written. -/
def ofEntries (entries : List Entry) : List Collision :=
  (slots entries).filterMap fun (key, slot) => among? key (slot.filterMap (entries[·]?))

def toJson (collision : Collision) : Json :=
  Json.ofFields
    [ ("key", .string collision.key),
      ("winner", collision.winner.toJson),
      ("shadowed", .array (collision.shadowed.map Entry.toJson)) ]

end Collision
end Phrasebook
