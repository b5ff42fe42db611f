import Phrasebook.Proofs.Disk.Ends

/-! # What replacing a file does to a disk

Each operation sets what is at one place or leaves the disk as it was. A replacement that stops has
made directories above the temporary file and at most written that file; once the old file is
removed, nothing can stop it any more. So whatever becomes of it, a location that is neither the
file's nor the temporary file's keeps what it holds.
-/

namespace Phrasebook.Disk

/-! ## Single operations -/

/-- The disks differ in what is at one location. -/
structure Sets (one : Disk) (location : Location) (node : Option Node) (other : Disk) : Prop where
  workingDirectory : other.workingDirectory = one.workingDirectory
  find? : ∀ place, other.find? place = if place = location then node else one.find? place

namespace Sets

variable {one other : Disk} {location : Location} {node : Option Node}

theorem here (sets : one.Sets location node other) : other.find? location = node := by
  rw [sets.find?, if_pos rfl]

theorem elsewhere (sets : one.Sets location node other) {place : Location}
    (apart : place ≠ location) : other.find? place = one.find? place := by
  rw [sets.find?, if_neg apart]

/-- A change keeps directories where it does not put something in place of one. -/
theorem keeps (sets : one.Sets location node other)
    (spares : one.find? location ≠ some .directory) : one.Keeps other := by
  refine ⟨sets.workingDirectory, fun place found => ?_⟩
  have apart : place ≠ location := fun same => spares (same ▸ found)
  rw [sets.elsewhere apart, found]

end Sets

variable {disk made : Disk} {path : Path} {content : Bytes}

/-- An operation that is carried out is a change, and goes into the trail. -/
theorem perform_eq_ok_iff {operation : Operation} :
    disk.perform operation = .ok made ↔
      ∃ changed : Disk,
        (match operation with
          | .makeDirectory path => disk.makeDirectory path
          | .writeFile path content => disk.writeFile path content
          | .removeFile path => disk.removeFile path
          | .rename old new => disk.rename old new) = .ok changed ∧
        { changed with trail := operation :: disk.trail } = made := by
  have carried (effort : Except Fault Disk) :
      (effort >>= fun changed => Except.ok { changed with trail := operation :: disk.trail }) =
          .ok made ↔
        ∃ changed : Disk, effort = .ok changed ∧
          { changed with trail := operation :: disk.trail } = made := by
    rw [bind_eq_ok_iff]
    exact exists_congr fun changed => and_congr_right fun _ => by rw [Except.ok.injEq]
  cases operation <;> exact carried _

theorem at_eq_ok_iff {site : Site} {name : String} {location : Location} :
    site.at name = .ok location ↔
      name.utf8ByteSize ≤ nameLimit ∧ location = site.directory ++ [name] := by
  unfold Site.at
  by_cases long : nameLimit < name.utf8ByteSize
  · simp [long, Nat.not_le.mpr long]
  · simp [long, Nat.not_lt.mp long, eq_comm]

theorem put_sets (disk : Disk) (directory : Location) (name : String) (node : Node)
    (trail : List Operation) :
    disk.Sets (directory ++ [name]) (some node)
      { disk.put (directory ++ [name]) node with trail := trail } :=
  ⟨rfl, fun _ => find?_put node (by simp)⟩

theorem perform_makeDirectory (done : disk.perform (.makeDirectory path) = .ok made) :
    ∃ directory name slash, disk.Names path directory name slash ∧
      disk.find? (directory ++ [name]) = none ∧
      disk.Sets (directory ++ [name]) (some .directory) made := by
  obtain ⟨changed, performed, rfl⟩ := perform_eq_ok_iff.mp done
  obtain ⟨⟨directory, last, slash⟩, sited, performed⟩ := bind_eq_ok_iff.mp performed
  dsimp only at performed
  split at performed
  · next name =>
    obtain ⟨location, at_, performed⟩ := bind_eq_ok_iff.mp performed
    obtain ⟨short, rfl⟩ := at_eq_ok_iff.mp at_
    split at performed
    · cases performed
    · next absent =>
      cases performed
      exact ⟨directory, name, slash, ⟨sited, short⟩, absent, put_sets ..⟩
  · cases performed

theorem perform_writeFile (done : disk.perform (.writeFile path content) = .ok made) :
    ∃ directory name, disk.Names path directory name false ∧
      disk.find? (directory ++ [name]) ≠ some .directory ∧
      disk.Sets (directory ++ [name]) (some (.file content)) made := by
  obtain ⟨changed, performed, rfl⟩ := perform_eq_ok_iff.mp done
  obtain ⟨⟨directory, last, slash⟩, sited, performed⟩ := bind_eq_ok_iff.mp performed
  dsimp only at performed
  split at performed
  · next name =>
    obtain ⟨location, at_, performed⟩ := bind_eq_ok_iff.mp performed
    obtain ⟨short, rfl⟩ := at_eq_ok_iff.mp at_
    split at performed
    · cases performed
    · next plain =>
      split at performed
      · cases performed
      · next spares =>
        cases performed
        rw [Bool.not_eq_true] at plain
        subst plain
        exact ⟨directory, name, ⟨sited, short⟩, spares, put_sets ..⟩
  · cases performed

theorem perform_removeFile (done : disk.perform (.removeFile path) = .ok made) :
    ∃ directory name old, disk.Names path directory name false ∧
      disk.find? (directory ++ [name]) = some (.file old) ∧
      disk.Sets (directory ++ [name]) none made := by
  obtain ⟨changed, performed, rfl⟩ := perform_eq_ok_iff.mp done
  obtain ⟨⟨directory, last, slash⟩, sited, performed⟩ := bind_eq_ok_iff.mp performed
  dsimp only at performed
  split at performed
  · next name =>
    obtain ⟨location, at_, performed⟩ := bind_eq_ok_iff.mp performed
    obtain ⟨short, rfl⟩ := at_eq_ok_iff.mp at_
    split at performed
    · cases performed
    · cases performed
    · next old found =>
      split at performed
      · cases performed
      · next plain =>
        cases performed
        rw [Bool.not_eq_true] at plain
        subst plain
        exact ⟨directory, name, old, ⟨sited, short⟩, found, rfl, fun _ => find?_clear (by simp)⟩
  · cases performed

/-- A file is moved exactly when both places can be named and no directory is in the way. -/
theorem perform_rename_iff {old new : Path} :
    disk.perform (.rename old new) = .ok made ↔
      ∃ oldDirectory oldName newDirectory newName content,
        disk.Names old oldDirectory oldName false ∧ disk.Names new newDirectory newName false ∧
        disk.find? (oldDirectory ++ [oldName]) = some (.file content) ∧
        disk.find? (newDirectory ++ [newName]) ≠ some .directory ∧
        made = { (disk.clear (oldDirectory ++ [oldName])).put (newDirectory ++ [newName])
          (.file content) with trail := .rename old new :: disk.trail } := by
  constructor
  · intro done
    obtain ⟨changed, performed, rfl⟩ := perform_eq_ok_iff.mp done
    obtain ⟨⟨oldDirectory, oldLast, oldSlash⟩, oldSited, performed⟩ := bind_eq_ok_iff.mp performed
    obtain ⟨⟨newDirectory, newLast, newSlash⟩, newSited, performed⟩ := bind_eq_ok_iff.mp performed
    dsimp only at performed
    split at performed
    · next oldName newName _ =>
      obtain ⟨source, oldAt, performed⟩ := bind_eq_ok_iff.mp performed
      obtain ⟨oldShort, rfl⟩ := at_eq_ok_iff.mp oldAt
      split at performed
      · cases performed
      · cases performed
      · next content found =>
        obtain ⟨target, newAt, performed⟩ := bind_eq_ok_iff.mp performed
        obtain ⟨newShort, rfl⟩ := at_eq_ok_iff.mp newAt
        split at performed
        · cases performed
        · next plain =>
          split at performed
          · cases performed
          · next spares =>
            cases performed
            simp only [Bool.or_eq_true, not_or, Bool.not_eq_true] at plain
            obtain ⟨rfl, rfl⟩ := plain
            exact ⟨oldDirectory, oldName, newDirectory, newName, content, ⟨oldSited, oldShort⟩,
              ⟨newSited, newShort⟩, found, spares, rfl⟩
    · cases performed
  · rintro ⟨oldDirectory, oldName, newDirectory, newName, content, oldNames, newNames, found,
      spares, rfl⟩
    refine perform_eq_ok_iff.mpr ⟨_, ?_, rfl⟩
    refine bind_eq_ok_iff.mpr ⟨_, oldNames.site, bind_eq_ok_iff.mpr ⟨_, newNames.site, ?_⟩⟩
    refine bind_eq_ok_iff.mpr ⟨_, at_eq_ok_iff.mpr ⟨oldNames.short, rfl⟩, ?_⟩
    simp only [found]
    refine bind_eq_ok_iff.mpr ⟨_, at_eq_ok_iff.mpr ⟨newNames.short, rfl⟩, ?_⟩
    simp [spares]

/-! ## Sequences of operations -/

/-- Carry out operations one after the other. -/
def performAll (disk : Disk) : List Operation → Except Fault Disk
  | [] => .ok disk
  | operation :: rest => disk.perform operation >>= fun changed => changed.performAll rest

theorem performAll_append (disk : Disk) (front back : List Operation) :
    disk.performAll (front ++ back) =
      disk.performAll front >>= fun changed => changed.performAll back := by
  induction front generalizing disk with
  | nil => rfl
  | cons operation rest ih =>
      simp only [List.cons_append, performAll, bind_assoc, ih]

theorem performAll_singleton (disk : Disk) (operation : Operation) :
    disk.performAll [operation] = disk.perform operation := by
  unfold performAll
  exact bind_pure _

theorem performAll_cons {operation : Operation} {changed : Disk}
    (performed : disk.perform operation = .ok changed) (rest : List Operation) :
    disk.performAll (operation :: rest) = changed.performAll rest := by
  change disk.perform operation >>= _ = _
  rw [performed]
  rfl

/-! ## Making directories -/

/-- A path above another: its parent, or above that. -/
inductive Path.Above : Path → Path → Prop where
  | parent {above path : Path} : path.parent? = some above → above.Above path
  | further {above between path : Path} :
      path.parent? = some between → above.Above between → above.Above path

theorem above_of_mem_ancestors {above : Path} {fuel : Nat}
    (member : above ∈ ancestors fuel path) : above = path ∨ above.Above path := by
  induction fuel generalizing path with
  | zero => cases member
  | succ fuel ih =>
      unfold ancestors at member
      split at member
      · cases member
      · split at member
        · exact .inl (List.mem_singleton.mp member)
        · next parent up =>
          rcases List.mem_cons.mp member with same | further
          · exact .inl same
          · rcases ih further with rfl | above
            · exact .inr (.parent up)
            · exact .inr (.further up above)

/-- A new directory, where one of some paths leads. -/
structure IsMade (along : Path → Prop) (one other : Disk) (location : Location) : Prop where
  absent : one.find? location = none
  directory : other.find? location = some .directory
  reached : ∃ path, along path ∧ other.resolve path = .ok location

/-- A new directory stays one. -/
theorem IsMade.kept {along : Path → Prop} {one other another : Disk} {location : Location}
    (new : IsMade along one other location) (keeps : other.Keeps another) :
    IsMade along one another location := by
  obtain ⟨absent, directory, path, on, leads⟩ := new
  have still := keeps.directory location directory
  exact ⟨absent, still, path, on, keeps.resolve leads (by simp [still])⟩

/-- The disks differ in directories that were made where some paths lead. -/
structure Makes (along : Path → Prop) (one other : Disk) : Prop where
  workingDirectory : other.workingDirectory = one.workingDirectory
  location : ∀ location, other.find? location = one.find? location ∨ IsMade along one other location

namespace Makes

variable {along alongToo : Path → Prop} {one other another : Disk}

theorem refl (along : Path → Prop) (disk : Disk) : disk.Makes along disk :=
  ⟨rfl, fun _ => .inl rfl⟩

theorem keeps (makes : one.Makes along other) : one.Keeps other := by
  refine ⟨makes.workingDirectory, fun location found => ?_⟩
  rcases makes.location location with same | new
  · rw [same, found]
  · exact new.directory

theorem weaken (makes : one.Makes along other) (implies : ∀ path, along path → alongToo path) :
    one.Makes alongToo other := by
  refine ⟨makes.workingDirectory, fun location => ?_⟩
  rcases makes.location location with same | ⟨absent, directory, path, on, leads⟩
  · exact .inl same
  · exact .inr ⟨absent, directory, path, implies path on, leads⟩

theorem trans (first : one.Makes along other) (second : other.Makes along another) :
    one.Makes along another := by
  refine ⟨second.workingDirectory.trans first.workingDirectory, fun location => ?_⟩
  rcases second.location location with same | new
  · rcases first.location location with sameToo | older
    · exact .inl (same.trans sameToo)
    · exact .inr (older.kept second.keeps)
  · rcases first.location location with sameToo | older
    · exact .inr ⟨sameToo ▸ new.absent, new.directory, new.reached⟩
    · exact absurd new.absent (by simp [older.directory])

end Makes

theorem makes_makeDirectory (done : disk.perform (.makeDirectory path) = .ok made) :
    disk.Makes (· = path) made := by
  obtain ⟨directory, name, slash, names, absent, sets⟩ := perform_makeDirectory done
  have keeps : disk.Keeps made := sets.keeps (by simp [absent])
  refine ⟨sets.workingDirectory, fun location => ?_⟩
  by_cases here : location = directory ++ [name]
  · subst here
    have leads := (names.kept keeps).resolve (by simp [sets.here]) fun _ => sets.here
    exact .inr ⟨absent, sets.here, path, rfl, leads⟩
  · exact .inl (sets.elsewhere here)

/-- The operations make directories where some paths lead, and do nothing else. -/
structure MakesOnly (along : Path → Prop) (one : Disk) (operations : List Operation)
    (other : Disk) : Prop where
  making : ∀ operation ∈ operations, ∃ path, along path ∧ operation = .makeDirectory path
  ran : one.performAll operations = .ok other

namespace MakesOnly

variable {along alongToo : Path → Prop} {one other another : Disk}
  {operations front back : List Operation}

theorem refl (along : Path → Prop) (disk : Disk) : disk.MakesOnly along [] disk :=
  ⟨List.forall_mem_nil _, rfl⟩

theorem trans (first : one.MakesOnly along front other)
    (second : other.MakesOnly along back another) :
    one.MakesOnly along (front ++ back) another := by
  constructor
  · intro operation member
    exact (List.mem_append.mp member).elim (first.making operation) (second.making operation)
  · rw [performAll_append, first.ran]
    exact second.ran

theorem weaken (makes : one.MakesOnly along operations other)
    (implies : ∀ path, along path → alongToo path) : one.MakesOnly alongToo operations other := by
  refine ⟨?_, makes.ran⟩
  intro operation member
  obtain ⟨path, on, same⟩ := makes.making operation member
  exact ⟨path, implies path on, same⟩

theorem makes (makesOnly : one.MakesOnly along operations other) : one.Makes along other := by
  obtain ⟨making, ran⟩ := makesOnly
  induction operations generalizing one with
  | nil =>
      cases ran
      exact .refl along _
  | cons operation rest ih =>
      obtain ⟨⟨path, on, rfl⟩, makingToo⟩ := List.forall_mem_cons.mp making
      obtain ⟨changed, performed, ran⟩ := bind_eq_ok_iff.mp ran
      have first : one.Makes along changed :=
        (makes_makeDirectory performed).weaken fun _ same => same ▸ on
      exact first.trans (ih makingToo ran)

end MakesOnly

theorem makesOnly_makeOne (disk : Disk) (path : Path) :
    ∃ operations, disk.MakesOnly (· = path) operations (disk.makeOne path).1 := by
  unfold makeOne
  cases performed : disk.perform (.makeDirectory path) with
  | error fault => exact ⟨[], .refl _ disk⟩
  | ok made =>
      refine ⟨[.makeDirectory path], ?_, ?_⟩
      · intro operation member
        exact ⟨path, rfl, List.mem_singleton.mp member⟩
      · rw [performAll_singleton, performed]

theorem makesOnly_makeAll (disk : Disk) (paths : List Path) :
    ∃ operations, disk.MakesOnly (· ∈ paths) operations (disk.makeAll paths).1 := by
  induction paths with
  | nil => exact ⟨[], .refl _ disk⟩
  | cons path above ih =>
      obtain ⟨front, higher⟩ := ih
      have higher := higher.weaken fun _ => List.mem_cons_of_mem path
      have last (prepared : Disk) :
          ∃ back, prepared.MakesOnly (· ∈ path :: above) back (prepared.makeOne path).1 := by
        obtain ⟨back, makes⟩ := makesOnly_makeOne prepared path
        exact ⟨back, makes.weaken fun _ same => List.mem_cons.mpr (.inl same)⟩
      unfold makeAll
      split
      · split
        · next prepared made =>
          rw [made] at higher
          obtain ⟨back, makes⟩ := last prepared
          exact ⟨front ++ back, higher.trans makes⟩
        · exact ⟨front, higher⟩
      · exact last disk

/-- The disk with the directories that a temporary file needs. -/
def prepare (disk : Disk) (temporary : Path) : Outcome :=
  match temporary.parent? with
  | some parent => if parent.text = "" then { disk } else disk.makeDirectories parent
  | none => { disk }

/-- The directories that are made before a file is written are above it. -/
theorem makesOnly_prepare (disk : Disk) (temporary : Path) :
    ∃ operations,
      disk.MakesOnly (·.Above temporary) operations (disk.prepare temporary).disk := by
  unfold prepare
  split
  · next parent up =>
    split
    · exact ⟨[], .refl _ disk⟩
    · obtain ⟨operations, makes⟩ := makesOnly_makeAll disk (ancestors _ parent)
      refine ⟨operations, makes.weaken fun above member => ?_⟩
      rcases above_of_mem_ancestors member with rfl | above
      · exact .parent up
      · exact .further up above
  · exact ⟨[], .refl _ disk⟩

/-! ## Replacing -/

theorem attempt_cases (disk : Disk) (operation : Operation) (blamed : Path) :
    (∃ fault, disk.attempt operation blamed = ⟨disk, some (.write blamed fault)⟩) ∨
      ∃ changed, disk.perform operation = .ok changed ∧
        disk.attempt operation blamed = ⟨changed, none⟩ := by
  unfold attempt
  cases performed : disk.perform operation with
  | ok changed => exact .inr ⟨changed, rfl, rfl⟩
  | error fault => exact .inl ⟨fault, rfl⟩

@[simp]
theorem andThen_done (disk : Disk) (next : Disk → Outcome) :
    Outcome.andThen ⟨disk, none⟩ next = next disk := rfl

theorem Names.temporary_eq {place : Location} {temporary : String} {slash : Bool}
    (names : disk.Names (temporaryFor path) place temporary slash) :
    temporary = path.fileName?.getD "dictionary" ++ ".tmp" :=
  Step.into.inj (Option.some.inj (names.last_steps.symm.trans (last_steps_temporaryFor path)))

theorem temporary_ne {other : Disk} {directory place : Location} {name temporary : String}
    {slash slashToo : Bool} (names : disk.Names path directory name slash)
    (namesToo : other.Names (temporaryFor path) place temporary slashToo) :
    directory ++ [name] ≠ place ++ [temporary] := by
  have named := fileName?_of_last_into names.last_steps
  intro same
  have ends := (last_name_eq same).trans namesToo.temporary_eq
  rw [named, Option.getD_some] at ends
  exact ne_self_temporary name ends

theorem Names.unique {directory directoryToo : Location} {name nameToo : String}
    {slash slashToo : Bool} (names : disk.Names path directory name slash)
    (namesToo : disk.Names path directoryToo nameToo slashToo) :
    directory = directoryToo ∧ name = nameToo := by
  have same := names.site.symm.trans namesToo.site
  simp only [Except.ok.injEq, Site.mk.injEq, Option.some.injEq, Step.into.injEq] at same
  exact ⟨same.1, same.2.1⟩

theorem replace_eq (disk : Disk) (path : Path) (content : Bytes) :
    disk.replace path content =
      (((disk.prepare (temporaryFor path)).andThen
        (·.attempt (.writeFile (temporaryFor path) content) (temporaryFor path))).andThen
          fun disk =>
            if disk.exists? path then disk.attempt (.removeFile path) path else { disk }).andThen
        (·.attempt (.rename (temporaryFor path) path) path) := rfl

/-- How far a replacement came: it made directories, it wrote the temporary file, or it was done.
    `prepared` is the disk with the directories. -/
inductive Replacement (prepared : Disk) (path : Path) (content : Bytes) : Outcome → Prop where
  | stopped (failure : Failure) : Replacement prepared path content ⟨prepared, some failure⟩
  | written {place : Location} {temporaryName : String} {written : Disk} (failure : Failure)
      (temporary : prepared.Names (temporaryFor path) place temporaryName false)
      (spares : prepared.find? (place ++ [temporaryName]) ≠ some .directory)
      (sets : prepared.Sets (place ++ [temporaryName]) (some (.file content)) written) :
      Replacement prepared path content ⟨written, some failure⟩
  | done {place directory : Location} {temporaryName name : String} {replaced : Disk}
      (temporary : prepared.Names (temporaryFor path) place temporaryName false)
      (spares : prepared.find? (place ++ [temporaryName]) ≠ some .directory)
      (names : replaced.Names path directory name false)
      (sparesToo : prepared.find? (directory ++ [name]) ≠ some .directory)
      (workingDirectory : replaced.workingDirectory = prepared.workingDirectory)
      (find? : ∀ location, replaced.find? location =
        if location = directory ++ [name] then some (.file content)
        else if location = place ++ [temporaryName] then none
        else prepared.find? location) :
      Replacement prepared path content ⟨replaced, none⟩

/-- The last step of a replacement, on a disk that is the written one but for what was removed at
    the path. -/
theorem replacement_moved {prepared written current replaced : Disk} {place : Location}
    {temporaryName : String}
    (temporary : prepared.Names (temporaryFor path) place temporaryName false)
    (spares : prepared.find? (place ++ [temporaryName]) ≠ some .directory)
    (sets : prepared.Sets (place ++ [temporaryName]) (some (.file content)) written)
    (keeps : written.Keeps current)
    (unlessFreed : ∀ location, current.find? location = written.find? location ∨
      written.find? location ≠ some .directory ∧
        ∃ directory name, location = directory ++ [name] ∧
          current.Names path directory name false)
    (moved : current.perform (.rename (temporaryFor path) path) = .ok replaced) :
    Replacement prepared path content ⟨replaced, none⟩ := by
  obtain ⟨oldDirectory, oldName, directory, name, old, oldNames, names, found, free, rfl⟩ :=
    perform_rename_iff.mp moved
  obtain ⟨rfl, rfl⟩ :=
    ((temporary.kept (sets.keeps spares)).kept keeps).unique oldNames
  have apart := temporary_ne names oldNames
  have freed {location : Location} (other : location ≠ directory ++ [name]) :
      current.find? location = written.find? location := by
    rcases unlessFreed location with same | ⟨-, directoryToo, nameToo, rfl, namesToo⟩
    · exact same
    · obtain ⟨rfl, rfl⟩ := names.unique namesToo
      exact absurd rfl other
  have sparesToo : prepared.find? (directory ++ [name]) ≠ some .directory := by
    rw [← sets.elsewhere apart]
    rcases unlessFreed (directory ++ [name]) with same | ⟨file, -⟩
    · rwa [← same]
    · exact file
  have content_eq : old = content := by
    rw [freed apart.symm, sets.here] at found
    simpa [eq_comm] using found
  subst content_eq
  have find? (location : Location) :
      (((current.clear (place ++ [temporaryName])).put (directory ++ [name])
        (.file old)).find? location) =
        if location = directory ++ [name] then some (.file old)
        else if location = place ++ [temporaryName] then none
        else prepared.find? location := by
    rw [find?_put _ (by simp)]
    by_cases here : location = directory ++ [name]
    · simp [here]
    · rw [if_neg here, if_neg here, find?_clear (by simp)]
      by_cases there : location = place ++ [temporaryName]
      · simp [there]
      · rw [if_neg there, if_neg there, freed here, sets.elsewhere there]
  have workingDirectory := keeps.workingDirectory.trans sets.workingDirectory
  have replaces : current.Keeps
      { (current.clear (place ++ [temporaryName])).put (directory ++ [name]) (.file old) with
        trail := .rename (temporaryFor path) path :: current.trail } := by
    refine ⟨rfl, fun location isDirectory => ?_⟩
    have other : location ≠ directory ++ [name] := fun same => free (same ▸ isDirectory)
    have otherToo : location ≠ place ++ [temporaryName] := by
      rintro rfl
      simp [found] at isDirectory
    refine (find? location).trans ?_
    rw [if_neg other, if_neg otherToo, ← sets.elsewhere otherToo, ← freed other, isDirectory]
  exact .done temporary spares (names.kept replaces) sparesToo workingDirectory find?

/-- Once the old file is removed, its place is free and the temporary file waits to be moved. -/
theorem waiting_of_removeFile {prepared written removed : Disk} {place : Location}
    {temporaryName : String}
    (temporary : prepared.Names (temporaryFor path) place temporaryName false)
    (spares : prepared.find? (place ++ [temporaryName]) ≠ some .directory)
    (sets : prepared.Sets (place ++ [temporaryName]) (some (.file content)) written)
    (removes : written.perform (.removeFile path) = .ok removed) :
    ∃ directory name old, written.find? (directory ++ [name]) = some (.file old) ∧
      written.Sets (directory ++ [name]) none removed ∧
      removed.Names path directory name false ∧
      removed.Names (temporaryFor path) place temporaryName false ∧
      removed.find? (place ++ [temporaryName]) = some (.file content) := by
  obtain ⟨directory, name, old, names, found, removes⟩ := perform_removeFile removes
  have keeps : written.Keeps removed := removes.keeps (by simp [found])
  have wroteNames := temporary.kept (sets.keeps spares)
  have apart := temporary_ne names wroteNames
  refine ⟨directory, name, old, found, removes, names.kept keeps, wroteNames.kept keeps, ?_⟩
  rw [removes.elsewhere apart.symm, sets.here]

/-- The operations of a replacement once the directories are there, and what it comes to: nothing is
    done, the temporary file is written, or it takes its place, from which a file may have been
    removed. -/
inductive Course (prepared : Disk) (path : Path) (content : Bytes) :
    List Operation → Outcome → Prop where
  | stopped (failure : Failure) : Course prepared path content [] ⟨prepared, some failure⟩
  | written {written : Disk} (failure : Failure)
      (wrote : prepared.perform (.writeFile (temporaryFor path) content) = .ok written) :
      Course prepared path content [.writeFile (temporaryFor path) content]
        ⟨written, some failure⟩
  | placed {written replaced : Disk}
      (wrote : prepared.perform (.writeFile (temporaryFor path) content) = .ok written)
      (free : written.exists? path = false)
      (moves : written.perform (.rename (temporaryFor path) path) = .ok replaced) :
      Course prepared path content
        [.writeFile (temporaryFor path) content, .rename (temporaryFor path) path]
        ⟨replaced, none⟩
  | replaced {written removed replaced : Disk}
      (wrote : prepared.perform (.writeFile (temporaryFor path) content) = .ok written)
      (removes : written.perform (.removeFile path) = .ok removed)
      (moves : removed.perform (.rename (temporaryFor path) path) = .ok replaced) :
      Course prepared path content
        [.writeFile (temporaryFor path) content, .removeFile path,
          .rename (temporaryFor path) path] ⟨replaced, none⟩

/-- Every replacement makes directories above the temporary file and goes on from there. -/
theorem course_replace (disk : Disk) (path : Path) (content : Bytes) :
    ∃ directories prepared operations,
      disk.MakesOnly (·.Above (temporaryFor path)) directories prepared ∧
        Course prepared path content operations (disk.replace path content) := by
  obtain ⟨directories, makes⟩ := makesOnly_prepare disk (temporaryFor path)
  rw [replace_eq]
  generalize disk.prepare (temporaryFor path) = outcome at makes ⊢
  obtain ⟨prepared, failure⟩ := outcome
  refine ⟨directories, prepared, ?_⟩
  cases failure with
  | some failure => exact ⟨[], makes, .stopped failure⟩
  | none =>
    simp only [andThen_done]
    rcases attempt_cases prepared (.writeFile (temporaryFor path) content) (temporaryFor path) with
      ⟨fault, stopped⟩ | ⟨written, wrote, went⟩
    · rw [stopped]
      exact ⟨[], makes, .stopped _⟩
    · rw [went, andThen_done]
      by_cases present : written.exists? path = true
      · rw [if_pos present]
        rcases attempt_cases written (.removeFile path) path with
          ⟨fault, stopped⟩ | ⟨removed, removes, went⟩
        · rw [stopped]
          exact ⟨_, makes, .written _ wrote⟩
        · -- The path is free and the temporary file still there, so the move cannot fail.
          obtain ⟨place, temporaryName, temporary, spares, sets⟩ := perform_writeFile wrote
          obtain ⟨directory, name, old, -, freed, names, wroteNames, waiting⟩ :=
            waiting_of_removeFile temporary spares sets removes
          have moves := perform_rename_iff.mpr ⟨place, temporaryName, directory, name, content,
            wroteNames, names, waiting, by simp [freed.here], rfl⟩
          rw [went, andThen_done, attempt, moves]
          exact ⟨_, makes, .replaced wrote removes moves⟩
      · rw [if_neg present, andThen_done]
        rcases attempt_cases written (.rename (temporaryFor path) path) path with
          ⟨fault, stopped⟩ | ⟨moved, moves, went⟩
        · rw [stopped]
          exact ⟨_, makes, .written _ wrote⟩
        · rw [went]
          exact ⟨_, makes, .placed wrote (Bool.eq_false_iff.mpr present) moves⟩

theorem Course.replacement {prepared : Disk} {operations : List Operation} {outcome : Outcome}
    (course : Course prepared path content operations outcome) :
    Replacement prepared path content outcome := by
  cases course with
  | stopped failure => exact .stopped failure
  | written failure wrote =>
      obtain ⟨place, temporaryName, temporary, spares, sets⟩ := perform_writeFile wrote
      exact .written failure temporary spares sets
  | @placed written replaced wrote free moves =>
      obtain ⟨place, temporaryName, temporary, spares, sets⟩ := perform_writeFile wrote
      exact replacement_moved temporary spares sets (.refl written) (fun _ => .inl rfl) moves
  | @replaced written removed replaced wrote removes moves =>
      obtain ⟨place, temporaryName, temporary, spares, sets⟩ := perform_writeFile wrote
      obtain ⟨directory, name, old, found, freed, names, -, -⟩ :=
        waiting_of_removeFile temporary spares sets removes
      have keeps : written.Keeps removed := freed.keeps (by simp [found])
      refine replacement_moved temporary spares sets keeps (fun location => ?_) moves
      by_cases here : location = directory ++ [name]
      · subst here
        exact .inr ⟨by simp [found], directory, name, rfl, names⟩
      · exact .inl (freed.elsewhere here)

/-- Every replacement comes to one of three ends. -/
theorem replacement_replace (disk : Disk) (path : Path) (content : Bytes) :
    ∃ prepared, disk.Makes (·.Above (temporaryFor path)) prepared ∧
      Replacement prepared path content (disk.replace path content) := by
  obtain ⟨directories, prepared, operations, makesOnly, course⟩ := course_replace disk path content
  exact ⟨prepared, makesOnly.makes, course.replacement⟩

/-- A replacement that is done puts the content where the path leads. -/
theorem read_replace_of_done (done : (disk.replace path content).failure = none) :
    (disk.replace path content).disk.read path = .ok content := by
  obtain ⟨prepared, -, replacement⟩ := replacement_replace disk path content
  generalize disk.replace path content = outcome at done replacement ⊢
  cases replacement with
  | stopped | written => cases done
  | @done place directory temporaryName name replaced temporary spares names sparesToo
      workingDirectory find? =>
      have found := find? (directory ++ [name])
      rw [if_pos rfl] at found
      exact read_eq_ok_iff.mpr ⟨_, names.resolve (by simp [found]) (by simp), found⟩

end Phrasebook.Disk
