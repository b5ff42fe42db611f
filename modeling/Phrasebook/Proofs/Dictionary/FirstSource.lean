import Mathlib.Data.List.Basic
import Phrasebook.Dictionary.Acquisition
import Phrasebook.Proofs.Network.Attempts

/-! # The first source that loads

Sources are tried in order, each on the network that the one before it left, until one loads. Those
behind it are never looked at.
-/

namespace Phrasebook.Dictionary

variable {disk : Disk} {base : Disk.Path} {network : Network} {given : String}

/-- What comes of a source when it is tried. -/
def trial (disk : Disk) (base : Disk.Path) (network : Network) (given : String) :
    Acquisition (List Entry) :=
  (Source.ofText disk base given).load disk network

theorem loadFirstAfter_of_ok {entries : List Entry} (last : String) (rest : List String)
    (loads : (trial disk base network given).result = .ok entries) :
    loadFirstAfter disk base last (given :: rest) network =
      let loaded : Loaded := ⟨(Source.ofText disk base given).text, entries⟩
      { result := .ok loaded
        network := (trial disk base network given).network
        notes := (trial disk base network given).notes ++ [loaded.note] } := by
  rw [trial] at loads
  simp only [loadFirstAfter, trial, loads]

theorem loadFirstAfter_of_error {failure : Failure} (last : String) (rest : List String)
    (fails : (trial disk base network given).result = .error failure) :
    loadFirstAfter disk base last (given :: rest) network =
      let later := loadFirstAfter disk base failure.message rest
        (trial disk base network given).network
      { later with
        notes := (trial disk base network given).notes ++
          (Source.ofText disk base given).unavailable failure :: later.notes } := by
  rw [trial] at fails
  simp only [loadFirstAfter, trial, fails]

/-! ## Runs -/

end Phrasebook.Dictionary
