import Phrasebook.Disk.Layout
import Phrasebook.Service
import Phrasebook.Session.Reach

/-! # The command line

The service on the real disk, standard input, output and error. Before a request is answered, what
it reaches is read from the disk; afterwards the operations of the answer are carried out.
-/

namespace Phrasebook.Main

def variableNames : List String :=
  ["MACRO_CORE_HOME", "LOCALAPPDATA", "MACRO_CORE_LOG"]

/-- What the environment holds of them. -/
def readEnvironment : IO Environment := do
  let mut found := []
  for name in variableNames do
    if let some value ← IO.getEnv name then
      found := found ++ [(name, value)]
  return found

/-- What lies at a path, if it can be read. -/
def readNode (path : String) : IO (Option Disk.Node) := do
  let place := (← IO.currentDir) / path
  if ← place.isDir then return some .directory
  try return some (.file (← IO.FS.readBinFile place).toList)
  catch _ => return none

/-- A path and the directories above it, the highest first. -/
def wayTo (path : Disk.Path) : List Disk.Path :=
  (path :: Disk.ancestors (path.text.length + 1) path).reverse

/-- The disk as far as some paths go. -/
def readDisk (workingDirectory : String) (paths : List Disk.Path) : IO Disk := do
  let mut disk := Disk.empty ((workingDirectory.splitOn "/").filter (· != ""))
  for path in paths.flatMap wayTo do
    if (disk.find? (disk.locationOf path)).isNone then
      if let some node ← readNode path.text then
        disk := disk.plant path node
  return disk

def carryOut (operation : Disk.Operation) : IO Unit :=
  match operation with
  | .makeDirectory path => IO.FS.createDir path.text
  | .writeFile path content => IO.FS.writeBinFile path.text ⟨content.toArray⟩
  | .removeFile path => IO.FS.removeFile path.text
  | .rename old new => IO.FS.rename old.text new.text

/-- Tell the notes of the journal, carry out the operations and send the responses. -/
def publish (environment : Environment) (service : Service) : IO Unit := do
  for line in Service.shownLines environment service.world.journal do
    IO.eprintln line
  for operation in service.world.disk.trail.reverse do
    carryOut operation
  for response in service.responses do
    IO.println response
  (← IO.getStdout).flush

/-- The next line of an input, with its newline; empty at the end. -/
partial def nextLine (input : IO.FS.Stream) : IO (List UInt8) := do
  let byte := (← input.read 1).toList
  if byte.isEmpty || byte == [0x0A] then return byte
  return byte ++ (← nextLine input)

/-- Answer lines until the input ends. -/
partial def answerLines (environment : Environment) (workingDirectory : String)
    (input : IO.FS.Stream) (session : Session) : IO Unit := do
  let raw ← nextLine input
  unless raw.isEmpty do
    let text := (Text.decodeUtf8? raw).getD ""
    let disk ← readDisk workingDirectory (session.linePaths text)
    let service : Service := { session := session, world := { disk := disk } }
    let answered := service.answerAll raw
    publish environment answered
    answerLines environment workingDirectory input answered.session

end Phrasebook.Main

open Phrasebook Main in
/-- Start the service and answer standard input. -/
def main : IO Unit := do
  let environment ← readEnvironment
  let workingDirectory := (← IO.currentDir).toString
  let directory := environment.directory workingDirectory
  let settingsPath := Settings.path directory
  let opened := (Session.start (← readDisk workingDirectory [settingsPath]) directory).value
  let sources := opened.sourcePaths opened.settings.dictionarySources
  let disk ← readDisk workingDirectory (settingsPath :: sources)
  let service := Service.start { disk := disk } directory
  publish environment service
  answerLines environment workingDirectory (← IO.getStdin) service.session
