import Phrasebook.Entry
import Phrasebook.Failure
import Phrasebook.Settings

/-! # Requests

A request is a JSON value with a command, a payload and an identifier of the caller's choice. What
it asks for is either a query, which changes nothing, or a change; a request that is not understood
is refused for a stated reason.
-/

namespace Phrasebook

/-- What can be asked without changing anything. A missing target means that of the session. -/
inductive Query where
  | ping
  | settings
  | dictionary
  | collisions
  | target
  | line (text : String) (target : Option Language)
  | document (text : String) (target : Option Language) (withReport : Bool)
  | file (path : String) (target : Option Language) (encoding : Option String)
  | encoding (path : String)
  deriving Repr, DecidableEq

/-- What can be changed. -/
inductive Change where
  | settings (settings : Settings)
  /-- Load a dictionary from the given sources, or from those in the settings. -/
  | load (sources : Option (List String))
  | dictionary (entries : List Entry)
  | dedupe (input output : String)
  | target (language : Language)
  deriving Repr, DecidableEq

/-- What is asked for. -/
inductive Action where
  | query (query : Query)
  | change (change : Change)
  deriving Repr, DecidableEq

/-- Why a request is answered with an error. -/
inductive Refusal where
  | unknownCommand
  | required (field : String)
  | entriesNotArray
  | invalidEntry (position : Nat) (reason : Json.Reason)
  | invalidSettings (reason : Json.Reason)
  | invalidSources (reason : Json.Reason)
  | failed (failure : Failure)
  deriving Repr, DecidableEq

def Refusal.message : Refusal → String
  | .unknownCommand => "unknown command"
  | .required field => "payload." ++ field ++ " is required"
  | .entriesNotArray => "payload.entries must be an array"
  | .invalidEntry position reason =>
      "invalid entry at index " ++ toString position ++ ": " ++ reason.message
  | .invalidSettings reason => "invalid payload.settings: " ++ reason.message
  | .invalidSources reason => "payload.sources must be an array of strings: " ++ reason.message
  | .failed failure => failure.message

structure Request where
  id : Json
  command : String
  payload : Json

namespace Request

/-- The request that a value makes. A missing identifier is null, a missing command is empty. -/
def ofJson (value : Json) : Request where
  id := (value.field? "id").getD .null
  command := ((value.field? "cmd").bind Json.string?).getD ""
  payload := (value.field? "payload").getD .null

/-! ## Fields of the payload -/

def text? (payload : Json) (field : String) : Option String :=
  (payload.field? field).bind Json.string?

/-- A field that has to be a text and not empty. -/
def requiredText (payload : Json) (field : String) : Except Refusal String :=
  match (text? payload field).getD "" with
  | "" => .error (.required field)
  | text => .ok text

def language (code : String) : Except Refusal Language :=
  match Language.ofCode? code with
  | some language => .ok language
  | none => .error (.failed (.invalidLanguage code))

def target (payload : Json) : Except Refusal (Option Language) :=
  match text? payload "target" with
  | some code => (language code).map some
  | none => .ok none

/-- Entries, the first of them at `position`. -/
def entriesFrom (position : Nat) : List Json → Except Refusal (List Entry)
  | [] => .ok []
  | item :: rest =>
      match Entry.ofJson item with
      | .error reason => .error (.invalidEntry position reason)
      | .ok entry => (entriesFrom (position + 1) rest).map (entry :: ·)

def entries (payload : Json) : Except Refusal (List Entry) :=
  match (payload.field? "entries").bind Json.array? with
  | some items => entriesFrom 0 items
  | none => .error .entriesNotArray

/-- The sources in the payload; null is as good as none. -/
def sources (payload : Json) : Except Refusal (Option (List String)) :=
  match payload.field? "sources" with
  | none | some .null => .ok none
  | some value => ((value.asList Json.asString).mapError .invalidSources).map some

def settings (payload : Json) : Except Refusal Settings :=
  match payload.field? "settings" with
  | none | some .null => .error (.required "settings")
  | some value => (Settings.ofJson value).mapError .invalidSettings

/-! ## Commands -/

def lineQuery (payload : Json) : Except Refusal Query := do
  match text? payload "line" with
  | none => .error (.required "line")
  | some line => .ok (.line line (← target payload))

def documentQuery (payload : Json) : Except Refusal Query := do
  let withReport := ((payload.field? "report").bind Json.bool?).getD false
  .ok (.document ((text? payload "text").getD "") (← target payload) withReport)

def fileQuery (payload : Json) : Except Refusal Query := do
  let path ← requiredText payload "path"
  .ok (.file path (← target payload) (text? payload "encoding"))

def dedupeChange (payload : Json) : Except Refusal Change := do
  let input ← requiredText payload "input"
  let output ← requiredText payload "output"
  .ok (.dedupe input output)

def action (request : Request) : Except Refusal Action :=
  let payload := request.payload
  match request.command with
  | "ping" => .ok (.query .ping)
  | "settings.get" => .ok (.query .settings)
  | "settings.save" => (settings payload).map fun given => .change (.settings given)
  | "dictionary.load" => (sources payload).map fun given => .change (.load given)
  | "dictionary.set" => (entries payload).map fun given => .change (.dictionary given)
  | "dictionary.info" => .ok (.query .dictionary)
  | "dictionary.collisions" => .ok (.query .collisions)
  | "dictionary.dedupe" => (dedupeChange payload).map .change
  | "target.get" => .ok (.query .target)
  | "target.set" =>
      (language ((text? payload "lang").getD "")).map fun given => .change (.target given)
  | "translate_line" => (lineQuery payload).map .query
  | "translate_document" => (documentQuery payload).map .query
  | "translate_file" => (fileQuery payload).map .query
  | "encoding.detect" | "detect_encoding" =>
      (requiredText payload "path").map fun path => .query (.encoding path)
  | _ => .error .unknownCommand

end Request
end Phrasebook
