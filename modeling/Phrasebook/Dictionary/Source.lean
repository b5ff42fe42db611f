import Phrasebook.Disk.Tree
import Phrasebook.Network.Url

/-! # Sources of dictionaries

A source is written as a text: a URL, or the path of a file. A relative path means a file in the
base directory if there is one, and otherwise one in the working directory.
-/

namespace Phrasebook.Dictionary

/-- Where a dictionary comes from. -/
inductive Source where
  | file (path : Disk.Path)
  | url (text : String)
  deriving Repr, DecidableEq

namespace Source

/-- The source that a text means. White space around it does not count. -/
def ofText (disk : Disk) (base : Disk.Path) (given : String) : Source :=
  let text := Text.trimWhite given
  if (Network.Scheme.ofStart? text).isSome then .url text
  else
    let path : Disk.Path := ⟨text⟩
    let below := base.join path
    if !path.isAbsolute && disk.exists? below then .file below else .file path

def text : Source → String
  | .file path => path.text
  | .url text => text

end Source
end Phrasebook.Dictionary
