import Phrasebook.Line
import Phrasebook.Text.Place

/-! # The search for a name

The span of the name in the text behind a command, found by places: where the space ends, where a
quoted name matches, where the first mark behind a bare name stands. The text is cut at the places
found, and a search that asks for a cut where there is none to make ends there.
-/

namespace Phrasebook

open Text

/-- Why a search ends without a name. -/
inductive Unnamed where
  /-- The text was to be cut beyond its end or inside of a character. -/
  | misplaced
  /-- The text has only space. -/
  | blank
  /-- A match has no such group. -/
  | ungrouped
  /-- A placeholder comes first, or a quote that opens no quoted name. -/
  | opensWithMark
  /-- A quote stands in a bare name. -/
  | strayQuote
  /-- Nothing is left of a bare name without the space around it. -/
  | emptyName
  deriving Repr, DecidableEq

/-- A match of a pattern: where its groups lie in the text, if they took part. Group 0 is all of
    it. -/
structure Captures where
  groups : List (Option ByteRange)
  deriving Repr, DecidableEq

def Captures.group? (captures : Captures) (number : Nat) : Option ByteRange :=
  captures.groups[number]?.join

/-- A way to match the pattern `^"([^"]+)"` in a text. -/
abbrev QuoteSearch := List Char → Option Captures

/-- The match at the opening quote of a text. -/
def openingQuote : QuoteSearch
  | '"' :: inside =>
      (quotedName? [] inside).map fun split =>
        ⟨[some ⟨0, byteSize split.token⟩, some ⟨1, 1 + byteSize split.name⟩]⟩
  | _ => none

namespace NameSpan

/-- What was looked for, or the reason why the search ends. -/
def orEnd {α : Type} (cause : Unnamed) : Option α → Except Unnamed α
  | some found => .ok found
  | none => .error cause

def before (place : Nat) (text : List Char) : Except Unnamed (List Char) :=
  orEnd .misplaced ((cut? place text).map (·.1))

def behind (place : Nat) (text : List Char) : Except Unnamed (List Char) :=
  orEnd .misplaced ((cut? place text).map (·.2))

/-- The span of the quoted name that matches in a text, which starts at a place. -/
def ofCaptures (start : Nat) (text : List Char) (captures : Captures) :
    Except Unnamed NameSpan := do
  let whole ← orEnd .ungrouped (captures.group? 0)
  let inner ← orEnd .ungrouped (captures.group? 1)
  let name ← orEnd .misplaced (slice? inner text)
  return { name := String.ofList name, start, stop := start + whole.stop, isQuoted := true }

/-- What is written for a bare name, by the place where it stops: all of the text, or what stands
    before a placeholder without the space in front of that. -/
def bareToken (stop : Nat) (text : List Char) : Except Unnamed (List Char) := do
  let run ← before stop text
  if stop = byteSize text then return run
  match ← behind stop text with
  | '<' :: _ => return trimEnd isSpace run
  | _ => throw .strayQuote

/-- The span of a bare name by what is written for it, which starts at a place. -/
def ofToken (start : Nat) (token : List Char) : Except Unnamed NameSpan :=
  let name := trimBoth isSpace token
  if name.isEmpty then .error .emptyName
  else .ok { name := String.ofList name, start, stop := start + byteSize token, isQuoted := false }

/-- The span of the bare name that a text opens with, which starts at a place. -/
def ofBare (start : Nat) (text : List Char) : Except Unnamed NameSpan :=
  let stop := (place? endsName text).getD (byteSize text)
  if stop = 0 then .error .opensWithMark
  else bareToken stop text >>= ofToken start

/-- The span of the name that a text opens with, which starts at a place: the quoted name that
    matches, or a bare name. -/
def ofStart (start : Nat) (text : List Char) : Option Captures → Except Unnamed NameSpan
  | some captures => ofCaptures start text captures
  | none => ofBare start text

/-- Find the name in the text behind a command, by a way to match quoted names. -/
def findBy (search : QuoteSearch) (text : List Char) : Except Unnamed NameSpan := do
  let start ← orEnd .blank (place? (fun c => !isSpace c) text)
  let rest ← behind start text
  ofStart start rest (search rest)

/-- The span of the name in the text behind a command. -/
def find? (text : List Char) : Option NameSpan :=
  (findBy openingQuote text).toOption

end NameSpan

end Phrasebook
