import Phrasebook.Disk.Replace
import Phrasebook.Journal
import Phrasebook.Settings.Reader

/-! # The settings file

Settings lie in one file of the application's directory. When there is none, everything has its
default.
-/

namespace Phrasebook.Settings

def path (directory : Disk.Path) : Disk.Path :=
  directory.join ⟨"settings.json"⟩

def load (disk : Disk) (directory : Disk.Path) : Except Failure Settings :=
  let file := path directory
  if !disk.exists? file then .ok {}
  else
    match disk.readText file with
    | .error fault => .error (.read file fault)
    | .ok text => (parse text).mapError (.json file.text)

/-- The settings in the file, or the defaults when the file cannot be used. -/
def loadOrDefault (disk : Disk) (directory : Disk.Path) : Noted Settings :=
  match load disk directory with
  | .ok settings => { value := settings }
  | .error failure =>
      { value := {}, notes := [⟨.warn, "[settings] " ++ failure.message ++ "; using defaults"⟩] }

def save (disk : Disk) (directory : Disk.Path) (settings : Settings) : Disk.Outcome :=
  disk.replace (path directory) (Text.encodeUtf8 settings.document.indented.toList)

/-- What the journal is told about settings that were saved. -/
def savedNote (directory : Disk.Path) : Note :=
  ⟨.debug, "[settings] saved " ++ (path directory).text⟩

end Phrasebook.Settings
