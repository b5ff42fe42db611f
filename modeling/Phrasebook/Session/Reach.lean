import Phrasebook.Session
import Phrasebook.Session.Request
import Phrasebook.Json.Parser

/-! # What a request reaches

The paths that a session may look at or change while it answers. Whoever keeps the disk elsewhere
has to bring only these.
-/

namespace Phrasebook.Session

/-- The paths of a file that is replaced. -/
def replaced (path : Disk.Path) : List Disk.Path :=
  [path, Disk.temporaryFor path]

def sourcePaths (session : Session) (sources : List String) : List Disk.Path :=
  sources.flatMap fun given =>
    let path : Disk.Path := ⟨Text.trimWhite given⟩
    [session.directory.join path, path]

def actionPaths (session : Session) : Action → List Disk.Path
  | .query (.file path _ _) | .query (.encoding path) => [session.pathOf path]
  | .query _ | .change (.dictionary _) => []
  | .change (.settings _) | .change (.target _) => replaced (Settings.path session.directory)
  | .change (.load sources) =>
      session.sourcePaths (sources.getD session.settings.dictionarySources)
  | .change (.dedupe input output) =>
      session.pathOf input :: replaced (session.pathOf output)

def linePaths (session : Session) (line : String) : List Disk.Path :=
  match (Json.parse line).toOption.map fun value => (Request.ofJson value).action with
  | some (.ok action) => session.actionPaths action
  | _ => []

end Phrasebook.Session
