import Phrasebook.Disk.Path
import Phrasebook.Text.Utf8

/-! # The disk

Files and directories by location, a location being the names from the root down. A path leads to a
location step by step, and what cannot be stepped through is a fault.
-/

namespace Phrasebook.Disk

/-- The contents of a file. -/
abbrev Bytes := List UInt8

/-- The names from the root down to a place. -/
abbrev Location := List String

/-- What is at a location. -/
inductive Node where
  | file (content : Bytes)
  | directory
  deriving Repr, DecidableEq

/-- Why the disk refuses. -/
inductive Fault where
  | notFound
  | alreadyExists
  | notDirectory
  | isDirectory
  | nameTooLong
  | busy
  | nulInPath
  | notText
  deriving Repr, DecidableEq

def Fault.message : Fault → String
  | .notFound => "No such file or directory (os error 2)"
  | .alreadyExists => "File exists (os error 17)"
  | .notDirectory => "Not a directory (os error 20)"
  | .isDirectory => "Is a directory (os error 21)"
  | .nameTooLong => "File name too long (os error 36)"
  | .busy => "Device or resource busy (os error 16)"
  | .nulInPath => "file name contained an unexpected NUL byte"
  | .notText => "stream did not contain valid UTF-8"

inductive Operation where
  | makeDirectory (path : Path)
  | writeFile (path : Path) (content : Bytes)
  | removeFile (path : Path)
  | rename (old new : Path)
  deriving Repr, DecidableEq

end Disk

/-- A disk: what is at each location, the first mention counting, the working directory, and the
    operations that took effect, the last one first. -/
structure Disk where
  nodes : List (Disk.Location × Disk.Node)
  workingDirectory : Disk.Location
  trail : List Disk.Operation := []
  deriving Repr, DecidableEq

namespace Disk

/-- What is at a location. The root is always a directory. -/
def find? (disk : Disk) (location : Location) : Option Node :=
  if location = [] then some .directory else disk.nodes.lookup location

def put (disk : Disk) (location : Location) (node : Node) : Disk :=
  { disk with nodes := (location, node) :: disk.nodes.filter (·.1 != location) }

def clear (disk : Disk) (location : Location) : Disk :=
  { disk with nodes := disk.nodes.filter (·.1 != location) }

inductive Step where
  | here
  | up
  | into (name : String)
  deriving Repr, DecidableEq

/-- The step that a piece of a path asks for; an empty piece asks for none. -/
def Step.ofPiece? (piece : List Char) : Option Step :=
  if piece = [] then none
  else if piece = ['.'] then some .here
  else if piece = ['.', '.'] then some .up
  else some (.into (String.ofList piece))

/-- The longest name and the longest path, in bytes. -/
def nameLimit : Nat := 255

@[inherit_doc nameLimit]
def pathLimit : Nat := 4095

/-- A path taken apart for walking: where it starts and its steps. A final slash asks that what
    stands before it be a directory. -/
structure Route where
  start : Location
  steps : List Step
  slash : Bool

/-- The route of a path, unless the path itself is impossible. -/
def route (disk : Disk) (path : Path) : Except Fault Route :=
  let text := path.text.toList
  if text.contains '\x00' then .error .nulInPath
  else if text = [] then .error .notFound
  else if pathLimit < path.text.utf8ByteSize then .error .nameTooLong
  else
    let steps := path.pieces.filterMap Step.ofPiece?
    .ok { start := if path.isAbsolute then [] else disk.workingDirectory
          steps := steps
          slash := text.getLast? == some '/' && steps != [] }

/-- Take one step from a location, which has to be a directory, to a place that exists. -/
def enter (disk : Disk) (location : Location) (step : Step) : Except Fault Location :=
  match disk.find? location with
  | some .directory =>
      match step with
      | .here => .ok location
      | .up => .ok location.dropLast
      | .into name =>
          if nameLimit < name.utf8ByteSize then .error .nameTooLong
          else
            match disk.find? (location ++ [name]) with
            | some _ => .ok (location ++ [name])
            | none => .error .notFound
  | some (.file _) => .error .notDirectory
  | none => .error .notFound

def walk (disk : Disk) (location : Location) : List Step → Except Fault Location
  | [] => .ok location
  | step :: rest => do
      let next ← disk.enter location step
      disk.walk next rest

/-- The location of something that exists. -/
def resolve (disk : Disk) (path : Path) : Except Fault Location := do
  let route ← disk.route path
  disk.walk route.start (route.steps ++ if route.slash then [.here] else [])

/-- Where the last step of a path leads, whether or not anything is there: the directory it starts
    from and the step. -/
structure Site where
  directory : Location
  last : Option Step
  slash : Bool

/-- Walk all of a path but its last step. -/
def site (disk : Disk) (path : Path) : Except Fault Site := do
  let route ← disk.route path
  let directory ← disk.walk route.start route.steps.dropLast
  match disk.find? directory with
  | some .directory => .ok ⟨directory, route.steps.getLast?, route.slash⟩
  | some (.file _) => .error .notDirectory
  | none => .error .notFound

/-- The location that a name at a site has. -/
def Site.at (site : Site) (name : String) : Except Fault Location :=
  if nameLimit < name.utf8ByteSize then .error .nameTooLong else .ok (site.directory ++ [name])

/-! ## Looking -/

def exists? (disk : Disk) (path : Path) : Bool :=
  (disk.resolve path).isOk

/-- What a path leads to. -/
def node? (disk : Disk) (path : Path) : Option Node :=
  match disk.resolve path with
  | .ok location => disk.find? location
  | .error _ => none

def isDirectory (disk : Disk) (path : Path) : Bool :=
  disk.node? path == some .directory

def read (disk : Disk) (path : Path) : Except Fault Bytes := do
  let location ← disk.resolve path
  match disk.find? location with
  | some (.file content) => .ok content
  | some .directory => .error .isDirectory
  | none => .error .notFound

/-- The contents of a file that has to be UTF-8. -/
def readText (disk : Disk) (path : Path) : Except Fault String := do
  match Text.decodeUtf8? (← disk.read path) with
  | some text => .ok text
  | none => .error .notText

/-! ## Changing -/

/-- Make a directory whose parent exists. -/
def makeDirectory (disk : Disk) (path : Path) : Except Fault Disk := do
  let site ← disk.site path
  match site.last with
  | some (.into name) =>
      let location ← site.at name
      match disk.find? location with
      | some _ => .error .alreadyExists
      | none => .ok (disk.put location .directory)
  | _ => .error .alreadyExists

/-- Write a file, in place of the file that is there. -/
def writeFile (disk : Disk) (path : Path) (content : Bytes) : Except Fault Disk := do
  let site ← disk.site path
  match site.last with
  | some (.into name) =>
      let location ← site.at name
      if site.slash then .error .isDirectory
      else
        match disk.find? location with
        | some .directory => .error .isDirectory
        | _ => .ok (disk.put location (.file content))
  | _ => .error .isDirectory

def removeFile (disk : Disk) (path : Path) : Except Fault Disk := do
  let site ← disk.site path
  match site.last with
  | some (.into name) =>
      let location ← site.at name
      match disk.find? location with
      | none => .error .notFound
      | some .directory => .error .isDirectory
      | some (.file _) => if site.slash then .error .notDirectory else .ok (disk.clear location)
  | _ => .error .isDirectory

/-- Move a file to a path, in place of the file that is there. -/
def rename (disk : Disk) (old new : Path) : Except Fault Disk := do
  let oldSite ← disk.site old
  let newSite ← disk.site new
  match oldSite.last, newSite.last with
  | some (.into oldName), some (.into newName) =>
      let source ← oldSite.at oldName
      match disk.find? source with
      | none => .error .notFound
      | some .directory => .error .isDirectory
      | some (.file content) =>
          let target ← newSite.at newName
          if oldSite.slash || newSite.slash then .error .notDirectory
          else if disk.find? target = some .directory then .error .isDirectory
          else .ok ((disk.clear source).put target (.file content))
  | _, _ => .error .busy

def perform (disk : Disk) (operation : Operation) : Except Fault Disk := do
  let changed ← match operation with
    | .makeDirectory path => disk.makeDirectory path
    | .writeFile path content => disk.writeFile path content
    | .removeFile path => disk.removeFile path
    | .rename old new => disk.rename old new
  .ok { changed with trail := operation :: disk.trail }

end Disk
end Phrasebook
