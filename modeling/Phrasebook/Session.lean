import Phrasebook.Collision
import Phrasebook.Dictionary.Acquisition
import Phrasebook.Document
import Phrasebook.Settings.File
import Phrasebook.World

/-! # Sessions

A session holds the settings and the current dictionary between requests. The operations here change
it; each says what becomes of the session and of the world around it.
-/

namespace Phrasebook

/-- What is kept between requests: the application's directory, the settings, the dictionary ready
    for use, and where it came from. -/
structure Session where
  directory : Disk.Path
  settings : Settings
  index : Index := .unset
  source : Option String := none

/-- What an operation came to: its result, the session and the world afterwards. -/
structure Effect (α : Type) where
  result : Except Failure α
  session : Session
  world : World

def Effect.map {α β : Type} (f : α → β) (effect : Effect α) : Effect β :=
  { result := effect.result.map f, session := effect.session, world := effect.world }

/-- An account of the current dictionary. -/
structure DictionaryInfo where
  source : Option String
  entries : Nat
  keys : Nat
  fingerprint : String
  deriving Repr, DecidableEq

def DictionaryInfo.toJson (info : DictionaryInfo) : Json :=
  Json.ofFields
    [ ("source", match info.source with
        | some source => .string source
        | none => .null),
      ("entries", Json.ofNat info.entries),
      ("keys", Json.ofNat info.keys),
      ("fingerprint", .string info.fingerprint) ]

namespace Session

/-- A session with the settings of a directory, or the default settings, and no dictionary. -/
def start (disk : Disk) (directory : Disk.Path) : Noted Session :=
  let settings := Settings.loadOrDefault disk directory
  { value := { directory := directory, settings := settings.value }, notes := settings.notes }

/-- The language that is translated into when a request names none. -/
def target (session : Session) : Language :=
  session.settings.targetLanguage

def info (session : Session) : DictionaryInfo where
  source := session.source
  entries := session.index.entries.length
  keys := session.index.size
  fingerprint := session.index.fingerprint

/-- The path that a request means: a relative one starts at the application's directory. -/
def pathOf (session : Session) (given : String) : Disk.Path :=
  session.directory.join ⟨given⟩

/-! ## Settings -/

/-- Save settings and use them from now on. Settings that cannot be saved are not used. -/
def saveSettings (session : Session) (world : World) (settings : Settings) : Effect Settings :=
  let saved := Settings.save world.disk session.directory settings
  let world := { world with disk := saved.disk }
  match saved.failure with
  | some failure => { result := .error failure, session := session, world := world }
  | none =>
      { result := .ok settings
        session := { session with settings := settings }
        world := world.tell [Settings.savedNote session.directory] }

/-- Use another target language from now on. It is saved if that is possible. -/
def setTarget (session : Session) (world : World) (language : Language) : Effect Language :=
  let settings := { session.settings with targetLanguage := language }
  let saved := Settings.save world.disk session.directory settings
  let note : Note :=
    match saved.failure with
    | some failure =>
        ⟨.warn, "[settings] could not persist target language: " ++ failure.message⟩
    | none => Settings.savedNote session.directory
  { result := .ok language
    session := { session with settings := settings }
    world := { world with disk := saved.disk }.tell [note] }

/-! ## The dictionary -/

/-- The entries to use of a dictionary: without repetitions if the settings ask for that. -/
def admitted (session : Session) (entries : List Entry) : List Entry :=
  if session.settings.dedupeOnLoad then dedupe entries else entries

/-- What the journal is told about a new index. -/
def rebuiltNote (index : Index) : Note :=
  ⟨.info, "[dictionary] index rebuilt: " ++ toString index.entries.length ++ " entries, " ++
    toString index.size ++ " keys"⟩

/-- Use a dictionary from now on. The index is kept if its fingerprint is that of the dictionary. -/
def replaceDictionary (session : Session) (entries : List Entry) (source : String) :
    Noted Session :=
  let entries := session.admitted entries
  if session.index.isCurrentFor entries then
    { value := { session with source := some source }
      notes := [⟨.debug, "[dictionary] snapshot unchanged, keeping index"⟩] }
  else
    let index := Index.build entries
    { value := { session with index := index, source := some source }
      notes := [rebuiltNote index] }

/-- Use a dictionary that was handed over in a request. -/
def setDictionary (session : Session) (world : World) (entries : List Entry) :
    Effect DictionaryInfo :=
  let replaced := session.replaceDictionary entries "inline"
  { result := .ok replaced.value.info, session := replaced.value,
    world := world.tell replaced.notes }

/-- Use the dictionary of the first source that gives one, out of the given sources or those in the
    settings. -/
def loadDictionary (session : Session) (world : World) (sources : Option (List String)) :
    Effect DictionaryInfo :=
  let sources := sources.getD session.settings.dictionarySources
  let acquired := Dictionary.loadFirst world.disk world.network session.directory sources
  let world := { world with network := acquired.network }.tell acquired.notes
  match acquired.result with
  | .error failure => { result := .error failure, session := session, world := world }
  | .ok loaded =>
      let replaced := session.replaceDictionary loaded.entries loaded.source
      { result := .ok replaced.value.info, session := replaced.value,
        world := world.tell replaced.notes }

def dedupeFile (session : Session) (world : World) (input output : String) :
    Effect Dictionary.DedupeReport :=
  let changed :=
    Dictionary.dedupeFile world.disk (session.pathOf input) (session.pathOf output)
  { result := changed.result, session := session,
    world := { world with disk := changed.disk }.tell changed.notes }

end Session
end Phrasebook
