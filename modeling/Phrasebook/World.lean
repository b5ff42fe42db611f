import Phrasebook.Disk.Replace
import Phrasebook.Journal
import Phrasebook.Network

/-! # The world

All that a session meets outside itself: the disk, the network, and the journal it keeps.
-/

namespace Phrasebook

/-- The surroundings of a session. The journal has its oldest note first. -/
structure World where
  disk : Disk
  network : Network := .offline
  journal : List Note := []
  deriving Repr, DecidableEq

def World.tell (world : World) (notes : List Note) : World :=
  { world with journal := world.journal ++ notes }

end Phrasebook
