import Phrasebook.Proofs.Session.Changes
import Phrasebook.Proofs.Session.Run
import Phrasebook.Proofs.Settings.Stored

/-! # Settings in memory and on the disk

A session that is started anew has the settings of the session that runs, after every line, as long
as settings that are to be saved are saved and no dictionary is written over them. It takes one
thing more: a settings file that is there at the start has to be reached. A directory whose path
goes up out of a directory that is missing hides the file, until a deduplication makes what is
missing.
-/

namespace Phrasebook.Session

variable {session : Session} {world : World} {line : String}

/-- A change saves the settings that it is to save, and writes nothing else to the place that the
    settings path names. -/
def SparesSettings (session : Session) (before after : Disk) : Change → Prop
  | .settings settings => (Settings.save before session.directory settings).failure = none
  | .target language =>
      (Settings.save before session.directory
        { session.settings with targetLanguage := language }).failure = none
  | .dedupe _ output =>
      after.resolve (session.pathOf output) ≠
        .ok (after.locationOf (Settings.path session.directory))
  | .load _ | .dictionary _ => True

/-- Every change of a run does. -/
def RunSparesSettings (session : Session) (world : World) : List String → Prop
  | [] => True
  | line :: rest =>
      let turn := session.handle world line
      (∀ change, asked? line = some (.change change) →
        session.SparesSettings world.disk turn.world.disk change) ∧
      turn.session.RunSparesSettings turn.world rest

theorem stored_deduplicated {output : Disk.Path}
    {change : Dictionary.FileChange Dictionary.DedupeReport}
    (stored : Settings.Stored world.disk session.directory session.settings)
    (deduplicated : Dictionary.Deduplicated world.disk output change)
    (apart : change.disk.resolve output ≠
      .ok (change.disk.locationOf (Settings.path session.directory))) :
    Settings.Stored change.disk session.directory session.settings := by
  cases deduplicated with
  | unread failure notes => exact stored
  | unsaved content failure notes stopped => exact stored.replace apart
  | saved content report notes done => exact stored.replace apart

theorem stored_apply {change : Change}
    (stored : Settings.Stored world.disk session.directory session.settings)
    (spares : session.SparesSettings world.disk (session.apply world change).world.disk change) :
    (session.apply world change).session.directory = session.directory ∧
      Settings.Stored (session.apply world change).world.disk session.directory
        (session.apply world change).session.settings := by
  have changed := changed_apply session world change
  generalize session.apply world change = effect at changed spares ⊢
  cases changed with
  | unsaved settings stopped disk => exact absurd (stopped.symm.trans spares) (by simp)
  | saved settings done disk => exact ⟨rfl, disk ▸ Settings.stored_save done⟩
  | target language disk => exact ⟨rfl, disk ▸ Settings.stored_save spares⟩
  | unloaded sources disk => exact ⟨rfl, disk ▸ stored⟩
  | loaded sources index source disk => exact ⟨rfl, disk ▸ stored⟩
  | set entries index source disk => exact ⟨rfl, disk ▸ stored⟩
  | deduplicated input output deduplicated disk =>
      exact ⟨rfl, disk ▸ stored_deduplicated stored deduplicated (disk ▸ spares)⟩

/-- A step: settings that are stored stay stored. -/
theorem stored_handle (stored : Settings.Stored world.disk session.directory session.settings)
    (spares : ∀ change, asked? line = some (.change change) →
      session.SparesSettings world.disk (session.handle world line).world.disk change) :
    (session.handle world line).session.directory = session.directory ∧
      Settings.Stored (session.handle world line).world.disk session.directory
        (session.handle world line).session.settings := by
  cases parsed : Json.parse line with
  | error =>
      simp only [handle, parsed]
      exact ⟨trivial, stored⟩
  | ok value =>
      rw [asked?_of_ok parsed] at spares
      simp only [handle, parsed] at spares ⊢
      generalize (Request.ofJson value).action = action at spares ⊢
      rcases action with refusal | query | change
      · exact ⟨rfl, stored⟩
      · exact ⟨rfl, stored⟩
      · exact stored_apply stored (spares change rfl)

theorem stored_run {lines : List String}
    (stored : Settings.Stored world.disk session.directory session.settings)
    (spares : session.RunSparesSettings world lines) :
    ∀ turn ∈ run handle session world lines,
      Settings.Stored turn.world.disk session.directory turn.session.settings := by
  induction lines generalizing session world with
  | nil => exact List.forall_mem_nil _
  | cons line rest ih =>
      obtain ⟨directory, step⟩ := stored_handle stored spares.1
      have later := ih (directory.symm ▸ step) spares.2
      rw [directory] at later
      exact List.forall_mem_cons.mpr ⟨step, later⟩

/-- After every line of a run that spares the settings, a session that is started anew has the
    settings of the session that runs, if a settings file that is there at the start is reached.
    That is so where the directory is there, and for a directory whose path never goes up. -/
theorem start_of_run (world : World) (directory : Disk.Path) :
    (∀ lines : List String, world.disk.Reaches (Settings.path directory) →
      (start world.disk directory).value.RunSparesSettings world lines →
      ∀ turn ∈ run handle (start world.disk directory).value world lines,
        (start turn.world.disk directory).value.settings = turn.session.settings) ∧
    (world.disk.isDirectory directory = true → world.disk.Reaches (Settings.path directory)) ∧
    (world.disk.IsTree → .up ∉ directory.steps →
      world.disk.Reaches (Settings.path directory)) := by
  refine ⟨?_, Settings.reaches_of_isDirectory, Settings.reaches_of_level⟩
  intro lines reaches spares turn member
  have stored : Settings.Stored world.disk directory (start world.disk directory).value.settings :=
    ⟨reaches, rfl⟩
  exact (stored_run stored spares turn member).loaded

/-- A request for the target language. -/
def germanRequest : String :=
  (Json.ofFields
    [("cmd", .string "target.set"), ("payload", Json.ofFields [("lang", .string "de")])]).compact

/-- The request of the two runs below is understood. -/
theorem asked?_dedupeRequest :
    asked? (dedupeRequest "/words.json" "kept.json") =
      some (.change (.dedupe "/words.json" "kept.json")) := by
  decide +kernel

/-- A target language is set where there was no directory, and a dictionary is deduplicated. The
    settings of a directory that is there are reached by a path that goes up, too. -/
theorem start_of_run_german :
    let world : World :=
      { disk :=
          { nodes := [(["old"], .directory), (["words.json"], .file [0x5B, 0x5D])]
            workingDirectory := [] } }
    let lines := [germanRequest, dedupeRequest "/words.json" "kept.json"]
    (∀ turn ∈ run handle (start world.disk ⟨"app"⟩).value world lines,
      (start turn.world.disk ⟨"app"⟩).value.settings = turn.session.settings) ∧
    world.disk.Reaches (Settings.path ⟨"old/.."⟩) := by
  intro world lines
  have tree : world.disk.IsTree := .of_nodes (by decide +kernel)
  have reaches := (start_of_run world ⟨"app"⟩).2.2 tree (by decide +kernel)
  have german : asked? germanRequest = some (.change (.target .de)) := by decide +kernel
  refine ⟨(start_of_run world ⟨"app"⟩).1 lines reaches ⟨?_, ?_, trivial⟩,
    (start_of_run world ⟨"old/.."⟩).2.1 (by decide +kernel)⟩
  · intro change asked
    cases german.symm.trans asked
    have saved : (Settings.save world.disk ⟨"app"⟩
        { (start world.disk ⟨"app"⟩).value.settings with targetLanguage := .de }).failure =
          none := by
      decide +kernel
    exact saved
  · intro change asked
    cases asked?_dedupeRequest.symm.trans asked
    unfold SparesSettings
    decide +kernel

/-- Settings in a directory that is named through a missing one are not found until a deduplication
    makes the missing one. -/
theorem start_of_run_unreached :
    let content := Text.encodeUtf8 "[\"de\"]".toList
    let world : World :=
      { disk :=
          { nodes := [(["home"], .directory), (["home", "settings.json"], .file content),
              (["words.json"], .file [0x5B, 0x5D])]
            workingDirectory := [] } }
    let lines := [dedupeRequest "/words.json" "kept.json"]
    let session := (start world.disk ⟨"a/../home"⟩).value
    session.RunSparesSettings world lines ∧
      ∃ turn ∈ run handle session world lines,
        (start turn.world.disk ⟨"a/../home"⟩).value.settings ≠ turn.session.settings := by
  intro content world lines session
  refine ⟨⟨?_, trivial⟩, _, List.mem_cons_self, ?_⟩
  · intro change asked
    cases asked?_dedupeRequest.symm.trans asked
    unfold SparesSettings
    decide +kernel
  · have read : (session.handle world (dedupeRequest "/words.json" "kept.json")).world.disk.read
        (Settings.path ⟨"a/../home"⟩) = .ok content := by
      decide +kernel
    have german : (Settings.ofBytes content).targetLanguage = .de := by decide +kernel
    have french : (session.handle world
        (dedupeRequest "/words.json" "kept.json")).session.settings.targetLanguage = .fr := by
      decide +kernel
    intro same
    have loaded := (Settings.loadOrDefault_of_read read).symm.trans same
    rw [loaded, french] at german
    cases german

end Phrasebook.Session
