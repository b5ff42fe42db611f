import Phrasebook.Text.Lowercase
import Phrasebook.Text.Space

/-! # Journal

What the library tells besides its answers: notes, each of a level of importance. A reader of the
journal chooses the least important level to see, or to see none.
-/

namespace Phrasebook

/-- How important a note is, the most important level first. -/
inductive Level where
  | error
  | warn
  | info
  | debug
  | trace
  deriving Repr, DecidableEq

namespace Level

/-- All levels, the most important first. -/
def all : List Level :=
  [.error, .warn, .info, .debug, .trace]

/-- The name that stands before a note. -/
def name : Level → String
  | .error => "ERROR"
  | .warn => "WARN"
  | .info => "INFO"
  | .debug => "DEBUG"
  | .trace => "TRACE"

/-- The rank of a level; more important levels have a lower one. -/
def rank : Level → Nat
  | .error => 0
  | .warn => 1
  | .info => 2
  | .debug => 3
  | .trace => 4

end Level

structure Note where
  level : Level
  text : String
  deriving Repr, DecidableEq

/-- The least important level that is shown, or `none` when nothing is. -/
abbrev Threshold := Option Level

namespace Threshold

/-- The threshold that a word names, in any ASCII case and with white space around it. -/
def ofText? (given : String) : Option Threshold :=
  let word := Text.lowerAscii (Text.trimWhite given)
  if word = "off" then some none
  else (Level.all.find? fun level => Text.lowerAscii level.name == word).map some

def shows (threshold : Threshold) (note : Note) : Bool :=
  match threshold with
  | none => false
  | some least => note.level.rank ≤ least.rank

end Threshold

def Note.line (note : Note) : String :=
  note.level.name ++ " " ++ note.text

/-- A value with the notes that were taken on the way to it. -/
structure Noted (α : Type) where
  value : α
  notes : List Note := []
  deriving Repr

end Phrasebook
