import Phrasebook.Disk.Tree

/-! # Laying a disk out

Putting files where they belong without walking there, and listing what lies below a directory.
-/

namespace Phrasebook.Disk

/-- The location after steps that are taken without looking at the disk. -/
def Location.after (location : Location) : List Step → Location
  | [] => location
  | .here :: rest => after location rest
  | .up :: rest => after location.dropLast rest
  | .into name :: rest => after (location ++ [name]) rest

/-- The location that a path names when nothing on the way is looked at. -/
def locationOf (disk : Disk) (path : Path) : Location :=
  let start := if path.isAbsolute then [] else disk.workingDirectory
  Location.after start (path.pieces.filterMap Step.ofPiece?)

/-- Make a location and everything above it directories, where there is nothing yet. -/
def plantDirectories (disk : Disk) (location : Location) : Disk :=
  (List.range (location.length + 1)).foldl
    (fun disk length =>
      let above := location.take length
      if (disk.find? above).isSome then disk else disk.put above .directory)
    disk

/-- Put a node at the location that a path names, with all directories above it. -/
def plant (disk : Disk) (path : Path) (node : Node) : Disk :=
  let location := disk.locationOf path
  let prepared := disk.plantDirectories location.dropLast
  match node with
  | .directory => prepared.plantDirectories location
  | .file content => prepared.put location (.file content)

/-- An empty disk with a working directory. -/
def empty (workingDirectory : Location) : Disk :=
  let bare : Disk := { nodes := [], workingDirectory := workingDirectory }
  bare.plantDirectories workingDirectory

/-- What lies below a directory, as paths from there in order of their text. The path of a directory
    ends in a slash. -/
def listing (disk : Disk) (directory : Location) : List String :=
  let below := disk.nodes.filter fun (location, _) =>
    directory.isPrefixOf location && directory.length < location.length
  let paths := below.map fun (location, node) =>
    let path := "/".intercalate (location.drop directory.length)
    if node = .directory then path ++ "/" else path
  paths.mergeSort fun a b => !(b < a)

end Phrasebook.Disk
