import Phrasebook.Session.Handle

/-! # What changes come to

Each operation of a session by its outcomes: what is answered, and what becomes of the session and
of the disk. Later proofs take a change apart here and nowhere else.
-/

namespace Phrasebook

/-- A deduplication fails while it reads, fails while it writes, or is done. -/
inductive Dictionary.Deduplicated (disk : Disk) (output : Disk.Path) :
    Dictionary.FileChange Dictionary.DedupeReport → Prop where
  | unread (failure : Failure) (notes : List Note) :
      Deduplicated disk output { result := .error failure, disk := disk, notes := notes }
  | unsaved (content : Disk.Bytes) (failure : Failure) (notes : List Note) :
      (disk.replace output content).failure = some failure →
        Deduplicated disk output
          { result := .error failure, disk := (disk.replace output content).disk, notes := notes }
  | saved (content : Disk.Bytes) (report : Dictionary.DedupeReport) (notes : List Note) :
      (disk.replace output content).failure = none →
        Deduplicated disk output
          { result := .ok report, disk := (disk.replace output content).disk, notes := notes }

theorem Dictionary.deduplicated_dedupeFile (disk : Disk) (input output : Disk.Path) :
    Dictionary.Deduplicated disk output (Dictionary.dedupeFile disk input output) := by
  unfold Dictionary.dedupeFile
  dsimp only
  split
  · exact .unread _ _
  · split
    · next failure failed => exact .unsaved _ failure _ failed
    · next done => exact .saved _ _ _ done

namespace Session

/-- What a change comes to: its result, the session and the disk afterwards. -/
inductive Changed (session : Session) (world : World) : Change → Effect Json → Prop where
  | unsaved (settings : Settings) {failure : Failure} {after : World} :
      (Settings.save world.disk session.directory settings).failure = some failure →
        after.disk = (Settings.save world.disk session.directory settings).disk →
          Changed session world (.settings settings)
            { result := .error failure, session := session, world := after }
  | saved (settings : Settings) {answer : Json} {after : World} :
      (Settings.save world.disk session.directory settings).failure = none →
        after.disk = (Settings.save world.disk session.directory settings).disk →
          Changed session world (.settings settings)
            { result := .ok answer, session := { session with settings := settings },
              world := after }
  | target (language : Language) {answer : Json} {after : World} :
      after.disk = (Settings.save world.disk session.directory
          { session.settings with targetLanguage := language }).disk →
        Changed session world (.target language)
          { result := .ok answer
            session :=
              { session with settings := { session.settings with targetLanguage := language } }
            world := after }
  | unloaded (sources : Option (List String)) {failure : Failure} {after : World} :
      after.disk = world.disk →
        Changed session world (.load sources)
          { result := .error failure, session := session, world := after }
  | loaded (sources : Option (List String)) (index : Index) (source : Option String)
      {answer : Json} {after : World} :
      after.disk = world.disk →
        Changed session world (.load sources)
          { result := .ok answer, session := { session with index := index, source := source },
            world := after }
  | set (entries : List Entry) (index : Index) (source : Option String) {answer : Json}
      {after : World} :
      after.disk = world.disk →
        Changed session world (.dictionary entries)
          { result := .ok answer, session := { session with index := index, source := source },
            world := after }
  | deduplicated (input output : String) {change : Dictionary.FileChange Dictionary.DedupeReport}
      {after : World} :
      Dictionary.Deduplicated world.disk (session.pathOf output) change →
        after.disk = change.disk →
          Changed session world (.dedupe input output)
            { result := change.result.map Dictionary.DedupeReport.toJson, session := session,
              world := after }

theorem exists_replaceDictionary (session : Session) (entries : List Entry) (source : String) :
    ∃ index source', (session.replaceDictionary entries source).value =
      { session with index := index, source := source' } := by
  unfold replaceDictionary
  dsimp only
  split
  · exact ⟨session.index, some source, rfl⟩
  · exact ⟨_, some source, rfl⟩

theorem changed_apply (session : Session) (world : World) (change : Change) :
    Changed session world change (session.apply world change) := by
  cases change with
  | settings settings =>
      unfold apply saveSettings
      dsimp only
      split
      · next failure failed => exact .unsaved settings failed rfl
      · next done => exact .saved settings done rfl
  | load sources =>
      unfold apply loadDictionary
      dsimp only
      split
      · exact .unloaded sources rfl
      · next loaded _ =>
        obtain ⟨index, source, replaced⟩ :=
          exists_replaceDictionary session loaded.entries loaded.source
        simp only [Effect.map, replaced]
        exact .loaded sources index source rfl
  | dictionary entries =>
      obtain ⟨index, source, replaced⟩ := exists_replaceDictionary session entries "inline"
      simp only [apply, setDictionary, Effect.map, replaced]
      exact .set entries index source rfl
  | dedupe input output =>
      exact .deduplicated input output (Dictionary.deduplicated_dedupeFile _ _ _) rfl
  | target language => exact .target language rfl

end Session
end Phrasebook
