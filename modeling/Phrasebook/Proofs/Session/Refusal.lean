import Phrasebook.Proofs.Disk.Frame
import Phrasebook.Proofs.Json.Fields
import Phrasebook.Proofs.Session.Changes
import Phrasebook.Proofs.Session.Run

/-! # Requests that are answered with an error

An error leaves the session as it was. On the disk it leaves at most what a replacement leaves that
was stopped: directories above the file that was to be saved, and the temporary file.
-/

namespace Phrasebook

/-- Whether a response is an error. -/
def Response.isError : Response → Bool
  | .notJson | .answer _ (.error _) => true
  | .answer _ (.ok _) => false

theorem Response.status_eq_error_iff (response : Response) :
    response.toJson.field? "status" = some (.string "error") ↔ response.isError = true := by
  rcases response with _ | ⟨id, refusal | payload⟩
  · simp [toJson, isError, Json.field?_ofFields, Json.lookup_cons_ite]
  · simp [toJson, isError, Json.field?_ofFields, Json.lookup_cons_ite]
  · simp [toJson, isError, Json.field?_ofFields, Json.lookup_cons_ite]

namespace Session

/-- The file that a change saves. -/
def savedBy (session : Session) : Change → Option Disk.Path
  | .settings _ | .target _ => some (Settings.path session.directory)
  | .dedupe _ output => some (session.pathOf output)
  | .load _ | .dictionary _ => none

/-- The file that is saved by what a line asks for. -/
def savedFor (session : Session) : Option Action → Option Disk.Path
  | some (.change change) => session.savedBy change
  | _ => none

/-- What an error leaves of a disk when a file was to be saved, and when none was: every file but the
    temporary one can be read as before, the file itself and the settings among them. -/
def Unspoiled (session : Session) (before after : Disk) : Option Disk.Path → Prop
  | none => after = before
  | some path => before.Spares path after ∧
      ∀ file content, before.read file = .ok content →
        (file = path ∨ file = Settings.path session.directory ∨
          after.resolve file ≠ after.resolve (Disk.temporaryFor path)) →
        after.read file = .ok content

variable {session : Session} {world : World}

theorem unspoiled_refl (session : Session) (disk : Disk) (saved : Option Disk.Path) :
    session.Unspoiled disk disk saved := by
  cases saved with
  | none => rfl
  | some path => exact ⟨.refl path disk, fun _ _ read _ => read⟩

theorem unspoiled_replace {disk : Disk} {path : Disk.Path} {content : Disk.Bytes}
    {failure : Failure} (failed : (disk.replace path content).failure = some failure) :
    session.Unspoiled disk (disk.replace path content).disk (some path) := by
  have spares := Disk.spares_of_failed failed
  refine ⟨spares, fun file old read among => ?_⟩
  obtain ⟨location, resolved, found⟩ := Disk.read_eq_ok_iff.mp read
  have stays := spares.isFile found
  refine spares.read resolved found ?_
  rcases among with rfl | rfl | apart
  · exact Disk.file_ne_temporary spares.keeps resolved stays
  · exact Disk.settings_ne_temporary resolved
  · obtain ⟨content, stays⟩ := stays
    rwa [spares.keeps.resolve resolved (by simp [stays]), ne_comm] at apart

theorem apply_failed {change : Change} {failure : Failure}
    (failed : (session.apply world change).result = .error failure) :
    (session.apply world change).session = session ∧
      session.Unspoiled world.disk (session.apply world change).world.disk
        (session.savedBy change) := by
  have changed := changed_apply session world change
  generalize session.apply world change = effect at changed failed ⊢
  cases changed with
  | unsaved settings stopped disk =>
      refine ⟨rfl, ?_⟩
      dsimp only
      rw [disk]
      exact unspoiled_replace stopped
  | unloaded sources disk => exact ⟨rfl, disk⟩
  | deduplicated input output deduplicated disk =>
      refine ⟨rfl, ?_⟩
      dsimp only
      rw [disk]
      cases deduplicated with
      | unread failure notes => exact unspoiled_refl _ _ _
      | unsaved content failure notes stopped => exact unspoiled_replace stopped
      | saved content report notes done => simp [Except.map] at failed
  | saved | target | loaded | set => cases failed

theorem perform_refused {id : Json} {action : Except Refusal Action}
    (refused : (session.perform world id action).response.toJson.field? "status" =
      some (.string "error")) :
    (session.perform world id action).session = session ∧
      session.Unspoiled world.disk (session.perform world id action).world.disk
        (session.savedFor action.toOption) := by
  rcases action with refusal | query | change
  · exact ⟨rfl, rfl⟩
  · exact ⟨rfl, rfl⟩
  · cases result : (session.apply world change).result with
    | ok answer =>
        rw [Response.status_eq_error_iff] at refused
        simp [perform, result, Except.mapError, Response.isError] at refused
    | error failure => exact apply_failed result

/-- A line that is answered with an error leaves the session as it was, and the disk too, but for
    directories above the file that was to be saved and its temporary file. -/
theorem handle_refused (session : Session) (world : World) (line : String)
    (refused : (session.handle world line).response.toJson.field? "status" =
      some (.string "error")) :
    (session.handle world line).session = session ∧
      session.Unspoiled world.disk (session.handle world line).world.disk
        (session.savedFor (asked? line)) := by
  cases parsed : Json.parse line with
  | error =>
      simp only [handle, parsed, asked?_of_error parsed, savedFor]
      exact ⟨trivial, rfl⟩
  | ok value =>
      simp only [handle, parsed, asked?_of_ok parsed] at refused ⊢
      exact perform_refused refused

/-- A dictionary is to be written where a directory is. -/
theorem handle_refused_directory :
    let disk : Disk :=
      { nodes := [(["app"], .directory), (["app", "words.json"], .file [0x5B, 0x5D]),
          (["app", "kept"], .directory)]
        workingDirectory := [] }
    let session : Session := { directory := ⟨"app"⟩, settings := {} }
    let turn := session.handle { disk := disk } (dedupeRequest "words.json" "kept")
    turn.response.toJson.field? "status" = some (.string "error") ∧ turn.session = session ∧
      disk.Spares (session.pathOf "kept") turn.world.disk ∧
      turn.world.disk.read ⟨"app/words.json"⟩ = .ok [0x5B, 0x5D] := by
  intro disk session turn
  have refused : turn.response.toJson.field? "status" = some (.string "error") :=
    (Response.status_eq_error_iff _).mpr (by decide +kernel)
  have asked : asked? (dedupeRequest "words.json" "kept") =
      some (.change (.dedupe "words.json" "kept")) := by
    decide +kernel
  obtain ⟨same, unspoiled⟩ := handle_refused session { disk := disk } _ refused
  rw [asked] at unspoiled
  have read := unspoiled.2 ⟨"app/words.json"⟩ [0x5B, 0x5D] (by decide +kernel)
    (.inr (.inr (by decide +kernel)))
  exact ⟨refused, same, unspoiled.1, read⟩

end Session
end Phrasebook
