import Phrasebook.Dictionary
import Phrasebook.Dictionary.Source
import Phrasebook.Network.Fetch

/-! # Acquiring a dictionary

Sources are tried in order until one gives a dictionary. What was wrong with the others goes into
the journal; if none is left, the last failure is the one reported.
-/

namespace Phrasebook.Dictionary

/-- A dictionary and the source it came from. -/
structure Loaded where
  source : String
  entries : List Entry
  deriving Repr, DecidableEq

def Source.load (disk : Disk) (network : Network) : Source → Acquisition (List Entry)
  | .file path =>
      let loaded := ofFile disk path
      { result := loaded.value, network := network, notes := loaded.notes }
  | .url text =>
      let fetched := network.fetch text
      { result := fetched.result.bind (Dictionary.ofText text), network := fetched.network,
        notes := fetched.notes }

def Loaded.note (loaded : Loaded) : Note :=
  ⟨.info, "[dictionary] loaded " ++ toString loaded.entries.length ++ " entries from " ++
    loaded.source⟩

/-- What the journal is told about a source that gave none. -/
def Source.unavailable (source : Source) (failure : Failure) : Note :=
  ⟨.warn, "[dictionary] source " ++ source.text ++ " unavailable: " ++ failure.message⟩

/-- Try sources in order; `last` is the message of the failure before them. -/
def loadFirstAfter (disk : Disk) (base : Disk.Path) (last : String) :
    List String → Network → Acquisition Loaded
  | [], network => { result := .error (.noSource last), network := network }
  | given :: rest, network =>
      let source := Source.ofText disk base given
      let tried := source.load disk network
      match tried.result with
      | .ok entries =>
          let loaded : Loaded := ⟨source.text, entries⟩
          { result := .ok loaded, network := tried.network, notes := tried.notes ++ [loaded.note] }
      | .error failure =>
          let later := loadFirstAfter disk base failure.message rest tried.network
          { later with notes := tried.notes ++ source.unavailable failure :: later.notes }

/-- The dictionary of the first source that gives one. -/
def loadFirst (disk : Disk) (network : Network) (base : Disk.Path) (sources : List String) :
    Acquisition Loaded :=
  loadFirstAfter disk base "no sources configured" sources network

end Phrasebook.Dictionary
