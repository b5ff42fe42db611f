import Phrasebook.Failure

/-! # Replacing a file

A file is written under another name next to its own and then moved into place. The steps stop at
the first fault; the disk they leave keeps a trail of the operations that took effect.
-/

namespace Phrasebook.Disk

/-- What a change of the disk came to: the disk as it was left, and the failure that stopped it. -/
structure Outcome where
  disk : Disk
  failure : Option Failure := none
  deriving Repr, DecidableEq

/-- Go on from an outcome unless it failed. -/
def Outcome.andThen (outcome : Outcome) (next : Disk → Outcome) : Outcome :=
  match outcome.failure with
  | none => next outcome.disk
  | some _ => outcome

/-- Carry out one operation; a fault is charged to `blamed`. -/
def attempt (disk : Disk) (operation : Operation) (blamed : Path) : Outcome :=
  match disk.perform operation with
  | .ok changed => { disk := changed }
  | .error fault => { disk, failure := some (.write blamed fault) }

/-- The directories from a path upwards, the empty path and what has no parent left out. -/
def ancestors : Nat → Path → List Path
  | 0, _ => []
  | fuel + 1, path =>
      if path.text = "" then []
      else
        match path.parent? with
        | none => [path]
        | some parent => path :: ancestors fuel parent

/-- Make one directory. A directory that is there already is as good as made. -/
def makeOne (disk : Disk) (path : Path) : Disk × Option Fault :=
  match disk.perform (.makeDirectory path) with
  | .ok made => (made, none)
  | .error fault => (disk, if disk.isDirectory path then none else some fault)

/-- Make the first directory of a list that names the way up from it, and before it as much of the
    way as is missing. -/
def makeAll (disk : Disk) : List Path → Disk × Option Fault
  | [] => (disk, none)
  | path :: above =>
      match disk.makeOne path with
      | (_, some .notFound) =>
          match disk.makeAll above with
          | (prepared, none) => prepared.makeOne path
          | stopped => stopped
      | settled => settled

/-- Make a directory and every directory above it that is missing. -/
def makeDirectories (disk : Disk) (path : Path) : Outcome :=
  let (made, fault) := disk.makeAll (ancestors (path.text.length + 1) path)
  { disk := made, failure := fault.map (.write path) }

/-- Where the new content of a file is written first: beside it, with `.tmp` after its name. -/
def temporaryFor (path : Path) : Path :=
  path.withFileName ((path.fileName?.getD "dictionary") ++ ".tmp")

/-- Put new content in place of a file. Missing directories are made, the content is written to the
    temporary file, what is at the path is removed, and the temporary file takes its place. -/
def replace (disk : Disk) (path : Path) (content : Bytes) : Outcome :=
  let temporary := temporaryFor path
  let prepared : Outcome :=
    match temporary.parent? with
    | some parent => if parent.text = "" then { disk } else disk.makeDirectories parent
    | none => { disk }
  prepared
    |>.andThen (·.attempt (.writeFile temporary content) temporary)
    |>.andThen (fun disk =>
        if disk.exists? path then disk.attempt (.removeFile path) path else { disk })
    |>.andThen (·.attempt (.rename temporary path) path)

end Phrasebook.Disk
