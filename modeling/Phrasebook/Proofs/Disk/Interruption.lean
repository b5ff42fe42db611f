import Phrasebook.Proofs.Disk.Frame

/-! # Replacements that are cut short

A replacement may end between any two of its operations, when the machine stops or when the disk
refuses the next one for a reason of its own. What a reader of the path then finds is told by the
operations that are missing. The old content can be read until the old file is removed, and the new
content once the temporary file has taken its place; in between there is nothing to read, and the
new content lies in the temporary file.
-/

namespace Phrasebook.Disk

variable {disk prepared made written removed stopped : Disk} {path : Path}
  {content old : Bytes} {operations : List Operation}

/-- A replacement was cut short and left a disk behind: its first operations are carried out and the
    missing ones are not, or the temporary file is being written and holds a part of its content. -/
inductive Interrupted (disk : Disk) (path : Path) (content : Bytes) :
    List Operation → Disk → Prop where
  | between {finished missing : List Operation} {stopped : Disk}
      (whole : (disk.replace path content).disk.trail =
        (finished ++ missing).reverse ++ disk.trail)
      (reached : disk.performAll finished = .ok stopped) :
      Interrupted disk path content missing stopped
  | within {missing : List Operation} {ready torn : Disk} {part : Bytes}
      (waiting : Interrupted disk path content
        (.writeFile (temporaryFor path) content :: missing) ready)
      (begun : part <+: content)
      (reached : ready.perform (.writeFile (temporaryFor path) part) = .ok torn) :
      Interrupted disk path content (.writeFile (temporaryFor path) content :: missing) torn

/-! ## What the trail tells -/

theorem trail_performAll (ran : disk.performAll operations = .ok made) :
    made.trail = operations.reverse ++ disk.trail := by
  induction operations generalizing disk with
  | nil =>
      cases ran
      rfl
  | cons operation rest ih =>
      obtain ⟨changed, performed, ran⟩ := bind_eq_ok_iff.mp ran
      obtain ⟨_, -, rfl⟩ := perform_eq_ok_iff.mp performed
      rw [ih ran, List.reverse_cons, List.append_assoc]
      rfl

/-- The operations that a disk remembers beyond those of another are the ones that led to it. -/
theorem eq_of_trail (ran : disk.performAll operations = .ok made) {others : List Operation}
    (whole : made.trail = others.reverse ++ disk.trail) : others = operations := by
  rw [trail_performAll ran] at whole
  exact List.reverse_injective (List.append_cancel_right whole.symm)

/-! ## The operations of a replacement -/

/-- A file can be read while directories are made. -/
theorem Makes.read {along : Path → Prop} (makes : disk.Makes along made)
    (present : disk.read path = .ok old) : made.read path = .ok old := by
  obtain ⟨location, resolved, found⟩ := read_eq_ok_iff.mp present
  rcases makes.location location with same | new
  · exact makes.keeps.read resolved found same
  · have absent := new.absent
    rw [found] at absent
    cases absent

/-- The temporary file is never the file at the path. -/
theorem read_of_writeFile (present : disk.read path = .ok old)
    (wrote : disk.perform (.writeFile (temporaryFor path) content) = .ok written) :
    written.read path = .ok old := by
  obtain ⟨location, resolved, found⟩ := read_eq_ok_iff.mp present
  obtain ⟨place, name, temporary, spares, sets⟩ := perform_writeFile wrote
  have keeps := sets.keeps spares
  have apart : location ≠ place ++ [name] := by
    rintro rfl
    have reached := (temporary.kept keeps).resolve (by simp [sets.here]) (by simp)
    exact file_ne_temporary keeps resolved ⟨content, sets.here⟩ reached
  exact keeps.read resolved found (sets.elsewhere apart)

theorem read_of_absent {directory : Location} {name : String} {slash : Bool}
    (names : disk.Names path directory name slash)
    (absent : disk.find? (directory ++ [name]) = none) : disk.read path = .error .notFound := by
  unfold Disk.read
  rw [names.resolve_of_absent absent]
  rfl

theorem read_of_removeFile
    (wrote : prepared.perform (.writeFile (temporaryFor path) content) = .ok written)
    (removes : written.perform (.removeFile path) = .ok removed) :
    removed.read path = .error .notFound ∧ removed.read (temporaryFor path) = .ok content := by
  obtain ⟨place, temporaryName, temporary, spares, sets⟩ := perform_writeFile wrote
  obtain ⟨directory, name, old, found, removes, names, namesToo, waiting⟩ :=
    waiting_of_removeFile temporary spares sets removes
  refine ⟨read_of_absent names removes.here, read_eq_ok_iff.mpr ⟨_, ?_, waiting⟩⟩
  exact namesToo.resolve (by simp [waiting]) (by simp)

theorem Course.ran {outcome : Outcome} (course : Course prepared path content operations outcome) :
    prepared.performAll operations = .ok outcome.disk := by
  cases course with
  | stopped failure => rfl
  | written failure wrote => rw [performAll_singleton, wrote]
  | placed wrote free moves => rw [performAll_cons wrote, performAll_singleton, moves]
  | replaced wrote removes moves =>
      rw [performAll_cons wrote, performAll_cons removes, performAll_singleton, moves]

theorem exists?_of_read (present : disk.read path = .ok old) : disk.exists? path = true := by
  obtain ⟨location, resolved, -⟩ := read_eq_ok_iff.mp present
  rw [exists?, resolved]
  rfl

/-! ## Reading in between -/

/-- What a reader of the path finds while operations are missing. -/
def Shows (path : Path) (old content : Bytes) (missing : List Operation) (stopped : Disk) : Prop :=
  stopped.read path = .ok old ∨
    missing = [] ∧ stopped.read path = .ok content ∨
    missing = [.rename (temporaryFor path) path] ∧
      stopped.read path = .error .notFound ∧ stopped.read (temporaryFor path) = .ok content

theorem Course.shows {outcome : Outcome} {finished missing : List Operation}
    (course : Course prepared path content (finished ++ missing) outcome)
    (present : prepared.read path = .ok old)
    (replaced : outcome.failure = none → outcome.disk.read path = .ok content)
    (reached : prepared.performAll finished = .ok stopped) :
    Shows path old content missing stopped := by
  -- The operations that are finished are the first of those of the course.
  generalize whole : finished ++ missing = operations at course
  cases course with
  | stopped failure =>
      obtain ⟨rfl, rfl⟩ := List.append_eq_nil_iff.mp whole
      cases reached
      exact .inl present
  | written failure wrote =>
      rcases List.append_eq_cons_iff.mp whole with ⟨rfl, -⟩ | ⟨further, rfl, rest⟩
      · cases reached
        exact .inl present
      · obtain ⟨rfl, -⟩ := List.append_eq_nil_iff.mp rest.symm
        rw [performAll_singleton, wrote] at reached
        cases reached
        exact .inl (read_of_writeFile present wrote)
  | placed wrote free moves =>
      have there := exists?_of_read (read_of_writeFile present wrote)
      rw [there] at free
      cases free
  | replaced wrote removes moves =>
      rcases List.append_eq_cons_iff.mp whole with ⟨rfl, -⟩ | ⟨further, rfl, rest⟩
      · cases reached
        exact .inl present
      rw [performAll_cons wrote] at reached
      rcases List.append_eq_cons_iff.mp rest.symm with ⟨rfl, -⟩ | ⟨beyond, rfl, move⟩
      · cases reached
        exact .inl (read_of_writeFile present wrote)
      rw [performAll_cons removes] at reached
      rcases List.append_eq_cons_iff.mp move.symm with ⟨rfl, rfl⟩ | ⟨last, rfl, nothing⟩
      · cases reached
        obtain ⟨gone, waiting⟩ := read_of_removeFile wrote removes
        exact .inr (.inr ⟨rfl, gone, waiting⟩)
      · obtain ⟨rfl, rfl⟩ := List.append_eq_nil_iff.mp nothing.symm
        rw [performAll_singleton, moves] at reached
        cases reached
        exact .inr (.inl ⟨rfl, replaced rfl⟩)

/-- A course that comes to its end has the move for its last operation, and no other has it. -/
theorem Course.done_iff {outcome : Outcome} {directories : List Operation}
    (course : Course prepared path content operations outcome)
    {along : Path → Prop} (makes : disk.MakesOnly along directories prepared) :
    outcome.failure = none ↔
      ∃ finished, directories ++ operations = finished ++ [.rename (temporaryFor path) path] := by
  cases course with
  | stopped failure =>
      refine iff_of_false (Option.some_ne_none failure) ?_
      rintro ⟨finished, same⟩
      rw [List.append_nil] at same
      obtain ⟨above, -, made⟩ := makes.making _ (same ▸ List.mem_concat_self)
      cases made
  | written failure wrote =>
      refine iff_of_false (Option.some_ne_none failure) ?_
      rintro ⟨finished, same⟩
      cases (List.append_inj' same rfl).2
  | placed wrote free moves =>
      refine iff_of_true rfl ⟨directories ++ [.writeFile (temporaryFor path) content], ?_⟩
      rw [List.append_assoc]
      rfl
  | replaced wrote removes moves =>
      refine iff_of_true rfl ⟨directories ++
        [.writeFile (temporaryFor path) content, .removeFile path], ?_⟩
      rw [List.append_assoc]
      rfl

theorem MakesOnly.performAll_append {along : Path → Prop} {directories : List Operation}
    {outcome : Outcome} (makes : disk.MakesOnly along directories prepared)
    (course : Course prepared path content operations outcome) :
    disk.performAll (directories ++ operations) = .ok outcome.disk := by
  rw [Disk.performAll_append, makes.ran]
  exact course.ran

theorem MakesOnly.begun {along : Path → Prop} {front back : List Operation}
    (makesOnly : disk.MakesOnly along (front ++ back) made)
    (reached : disk.performAll front = .ok stopped) : disk.MakesOnly along front stopped := by
  refine ⟨?_, reached⟩
  intro operation member
  exact makesOnly.making operation (List.mem_append_left back member)

theorem shows_between {finished missing : List Operation} (present : disk.read path = .ok old)
    (whole : (disk.replace path content).disk.trail =
      (finished ++ missing).reverse ++ disk.trail)
    (reached : disk.performAll finished = .ok stopped) :
    Shows path old content missing stopped := by
  obtain ⟨directories, prepared, operations, makesOnly, course⟩ := course_replace disk path content
  have same := eq_of_trail (makesOnly.performAll_append course) whole
  rcases List.append_eq_append_iff.mp same with
    ⟨others, rfl, -⟩ | ⟨begun, rfl, rfl⟩
  · exact .inl ((makesOnly.begun reached).makes.read present)
  · rw [performAll_append, makesOnly.ran] at reached
    exact course.shows (makesOnly.makes.read present) read_replace_of_done reached

theorem shows_interrupted {missing : List Operation} (present : disk.read path = .ok old)
    (interrupted : Interrupted disk path content missing stopped) :
    Shows path old content missing stopped := by
  induction interrupted with
  | between whole reached => exact shows_between present whole reached
  | within waiting begun reached ih =>
      rcases ih with still | ⟨nothing, -⟩ | ⟨last, -⟩
      · exact .inl (read_of_writeFile still reached)
      · cases nothing
      · cases last

theorem interrupted_replace (disk : Disk) (path : Path) (content : Bytes) :
    Interrupted disk path content [] (disk.replace path content).disk := by
  obtain ⟨directories, prepared, operations, makesOnly, course⟩ := course_replace disk path content
  have ran := makesOnly.performAll_append course
  refine .between ?_ ran
  rw [trail_performAll ran, List.append_nil]

theorem done_iff_interrupted (disk : Disk) (path : Path) (content : Bytes) :
    (disk.replace path content).failure = none ↔
      ∃ stopped, Interrupted disk path content [.rename (temporaryFor path) path] stopped := by
  obtain ⟨directories, prepared, operations, makesOnly, course⟩ := course_replace disk path content
  have ran := makesOnly.performAll_append course
  rw [course.done_iff makesOnly]
  constructor
  · rintro ⟨finished, same⟩
    rw [same, performAll_append] at ran
    obtain ⟨stopped, reached, moved⟩ := bind_eq_ok_iff.mp ran
    refine ⟨stopped, .between ?_ reached⟩
    rw [← same, trail_performAll (makesOnly.performAll_append course)]
  · rintro ⟨stopped, interrupted⟩
    cases interrupted with
    | between whole reached => exact ⟨_, (eq_of_trail ran whole).symm⟩

/-- Wherever the replacement of a file is cut short, a reader of its path finds the old content or
    the new one, whole, but for one point: just before the last operation, the file is missing, and
    the new content is in the temporary file. Every replacement that is done passes that point, and
    one that fails does not. -/
theorem read_interrupted (present : disk.read path = .ok old) (content : Bytes) :
    (∀ missing stopped, Interrupted disk path content missing stopped →
      stopped.read path = .ok old ∨
      missing = [] ∧ stopped.read path = .ok content ∨
      missing = [.rename (temporaryFor path) path] ∧
        stopped.read path = .error .notFound ∧
        stopped.read (temporaryFor path) = .ok content) ∧
    Interrupted disk path content [] (disk.replace path content).disk ∧
    ((disk.replace path content).failure = none ↔
      ∃ stopped, Interrupted disk path content [.rename (temporaryFor path) path] stopped) := by
  refine ⟨?_, interrupted_replace disk path content, done_iff_interrupted disk path content⟩
  intro missing stopped interrupted
  exact shows_interrupted present interrupted

/-- Settings are saved in place of others. -/
theorem read_interrupted_settings :
    let disk : Disk :=
      { nodes := [(["home"], .directory), (["home", "settings.json"], .file [0x7B, 0x7D])]
        workingDirectory := [] }
    disk.read ⟨"home/settings.json"⟩ = .ok [0x7B, 0x7D] ∧
    ∃ stopped, Interrupted disk ⟨"home/settings.json"⟩ [0x5B, 0x5D]
        [.rename ⟨"home/settings.json.tmp"⟩ ⟨"home/settings.json"⟩] stopped := by
  intro disk
  have present : disk.read ⟨"home/settings.json"⟩ = .ok [0x7B, 0x7D] := by decide +kernel
  have done : (disk.replace ⟨"home/settings.json"⟩ [0x5B, 0x5D]).failure = none := by
    decide +kernel
  have temporary : temporaryFor ⟨"home/settings.json"⟩ = ⟨"home/settings.json.tmp"⟩ := by
    decide +kernel
  have point := (read_interrupted present [0x5B, 0x5D]).2.2.mp done
  rw [temporary] at point
  exact ⟨present, point⟩

/-- There is a point at which neither content can be read. -/
theorem replace_leaves_gap :
    ¬∀ (disk : Disk) (path : Path) (old content : Bytes), disk.read path = .ok old →
      ∀ missing stopped, Interrupted disk path content missing stopped →
        stopped.read path = .ok old ∨ stopped.read path = .ok content := by
  intro atomic
  let path : Path := ⟨"home/settings.json"⟩
  let temporary : Path := ⟨"home/settings.json.tmp"⟩
  let disk : Disk :=
    { nodes := [(["home"], .directory), (["home", "settings.json"], .file [0x7B, 0x7D])]
      workingDirectory := [] }
  let stopped : Disk :=
    { nodes := [(["home", "settings.json.tmp"], .file [0x5B, 0x5D]), (["home"], .directory)]
      workingDirectory := []
      trail := [.removeFile path, .writeFile temporary [0x5B, 0x5D]] }
  let finished : List Operation := [.writeFile temporary [0x5B, 0x5D], .removeFile path]
  have present : disk.read path = .ok [0x7B, 0x7D] := by decide +kernel
  have whole : (disk.replace path [0x5B, 0x5D]).disk.trail =
      (finished ++ [Operation.rename temporary path]).reverse ++ disk.trail := by decide +kernel
  have reached : disk.performAll finished = .ok stopped := by decide +kernel
  rcases atomic disk path _ _ present _ stopped (.between whole reached) with old | new
  · revert old
    decide +kernel
  · revert new
    decide +kernel

end Phrasebook.Disk
