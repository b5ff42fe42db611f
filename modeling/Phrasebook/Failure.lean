import Phrasebook.Disk.Tree
import Phrasebook.Json.Fault

/-! # Failures

Everything that can go wrong outside the request itself, each with what its message needs.
-/

namespace Phrasebook

/-- A failure of the disk, of a document, of the network, or of a word that has to be known. -/
inductive Failure where
  | read (path : Disk.Path) (fault : Disk.Fault)
  | write (path : Disk.Path) (fault : Disk.Fault)
  | json (origin : String) (error : Json.Error)
  | notAList (origin : String)
  | http (url message : String)
  | invalidLanguage (code : String)
  | unknownEncoding (label : String)
  /-- No source gave a dictionary; `last` tells what was wrong with the last one. -/
  | noSource (last : String)
  deriving Repr, DecidableEq

def Failure.message : Failure → String
  | .read path fault => "failed to read " ++ path.text ++ ": " ++ fault.message
  | .write path fault => "failed to write " ++ path.text ++ ": " ++ fault.message
  | .json origin error => "invalid json in " ++ origin ++ ": " ++ error.message
  | .notAList origin => origin ++ " is not a flat list of entries"
  | .http url message => "request to " ++ url ++ " failed: " ++ message
  | .invalidLanguage code => "unsupported language code: " ++ Text.quoted code
  | .unknownEncoding label => "unknown encoding label: " ++ Text.quoted label
  | .noSource last => "no dictionary source could be loaded (last error: " ++ last ++ ")"

end Phrasebook
