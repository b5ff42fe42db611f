import Phrasebook.Number.Shortest

/-! # JSON values

Numbers keep the two kinds that the reader tells apart: integers of 64 bits and binary numbers.
An object that is read, or built with `Json.ofFields`, has its fields sorted by name and each name
once, so it prints in one way whatever order they came in. Only a document whose layout is fixed
names its fields in an order of its own.
-/

namespace Phrasebook

open Number in
/-- A JSON number. A binary number has its sign beside its magnitude, so zero has two signs. -/
inductive Json.Number where
  | integer (value : Int)
  | binary (negative : Bool) (magnitude : Binary)
  deriving Repr, DecidableEq, Inhabited

inductive Json where
  | null
  | bool (value : Bool)
  | number (value : Json.Number)
  | string (value : String)
  | array (items : List Json)
  | object (fields : List (String × Json))
  deriving Repr, Inhabited

namespace Json

/-- Insert a field at its place by name; a field of that name is replaced. -/
def insertField (name : String) (value : Json) : List (String × Json) → List (String × Json)
  | [] => [(name, value)]
  | (other, old) :: rest =>
      if name = other then (name, value) :: rest
      else if name < other then (name, value) :: (other, old) :: rest
      else (other, old) :: insertField name value rest

/-- The object with the given fields; of two with one name the later stays. -/
def ofFields (fields : List (String × Json)) : Json :=
  .object (fields.foldl (fun sorted (name, value) => insertField name value sorted) [])

/-- An object's field; any other value has no fields. -/
def field? (name : String) : Json → Option Json
  | .object fields => fields.lookup name
  | _ => none

def string? : Json → Option String
  | .string text => some text
  | _ => none

def bool? : Json → Option Bool
  | .bool value => some value
  | _ => none

def array? : Json → Option (List Json)
  | .array items => some items
  | _ => none

def ofNat (n : Nat) : Json :=
  .number (.integer n)

end Json
end Phrasebook
