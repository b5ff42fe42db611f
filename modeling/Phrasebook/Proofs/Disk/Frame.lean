import Phrasebook.Proofs.Disk.Replacing

/-! # What a replacement leaves alone

A replacement that fails has made directories above the temporary file and at most written that
file. Neither the file that was to be replaced nor the settings file is ever the temporary file, so
both can still be read, as can every other file.
-/

namespace Phrasebook.Disk

variable {disk one other prepared : Disk} {path : Path} {content : Bytes}

theorem Replacement.keeps {outcome : Outcome}
    (replacement : Replacement prepared path content outcome) : prepared.Keeps outcome.disk := by
  cases replacement with
  | stopped failure => exact .refl _
  | written failure temporary spares sets => exact sets.keeps spares
  | @done place directory temporaryName name replaced temporary spares names sparesToo
      workingDirectory find? =>
      refine ⟨workingDirectory, fun location found => ?_⟩
      have other : location ≠ directory ++ [name] := fun same => sparesToo (same ▸ found)
      have otherToo : location ≠ place ++ [temporaryName] := fun same => spares (same ▸ found)
      rw [find?, if_neg other, if_neg otherToo, found]

theorem keeps_replace (disk : Disk) (path : Path) (content : Bytes) :
    disk.Keeps (disk.replace path content).disk := by
  obtain ⟨prepared, makes, replacement⟩ := replacement_replace disk path content
  exact makes.keeps.trans replacement.keeps

/-- A file that is neither the one at the path nor the temporary one is there afterwards just when
    it was there before. -/
theorem file_replace_iff {location : Location} (old : Bytes)
    (apart : (disk.replace path content).disk.resolve path ≠ .ok location)
    (lasting : ∀ place, location ≠ place ++ [path.fileName?.getD "dictionary" ++ ".tmp"]) :
    (disk.replace path content).disk.find? location = some (.file old) ↔
      disk.find? location = some (.file old) := by
  obtain ⟨prepared, makes, replacement⟩ := replacement_replace disk path content
  have made : prepared.find? location = some (.file old) ↔
      disk.find? location = some (.file old) := by
    rcases makes.location location with same | ⟨absent, directory, -⟩
    · rw [same]
    · simp [absent, directory]
  have other {place : Location} {temporaryName : String}
      (temporary : prepared.Names (temporaryFor path) place temporaryName false) :
      location ≠ place ++ [temporaryName] :=
    temporary.temporary_eq ▸ lasting place
  generalize disk.replace path content = outcome at apart replacement ⊢
  cases replacement with
  | stopped failure => exact made
  | written failure temporary spares sets => rw [sets.elsewhere (other temporary), made]
  | @done place directory temporaryName name replaced temporary spares names sparesToo
      workingDirectory find? =>
      have away : location ≠ directory ++ [name] := by
        rintro rfl
        exact apart (names.resolve (by simp [find?]) (by simp))
      rw [find?, if_neg away, if_neg (other temporary), made]

/-! ## Failed replacements -/

/-- The temporary file of a path lies at a location, where there was no directory. -/
structure IsTemporary (path : Path) (one other : Disk) (location : Location) : Prop where
  reached : other.resolve (temporaryFor path) = .ok location
  isFile : ∃ content, other.find? location = some (.file content)
  spares : one.find? location ≠ some .directory

/-- The disks differ at most in directories that were made above the temporary file of a path, and
    in that file. -/
structure Spares (path : Path) (one other : Disk) : Prop where
  workingDirectory : other.workingDirectory = one.workingDirectory
  location : ∀ location, other.find? location = one.find? location ∨
    IsMade (·.Above (temporaryFor path)) one other location ∨ IsTemporary path one other location

namespace Spares

theorem refl (path : Path) (disk : Disk) : disk.Spares path disk :=
  ⟨rfl, fun _ => .inl rfl⟩

theorem keeps (spares : one.Spares path other) : one.Keeps other := by
  refine ⟨spares.workingDirectory, fun location found => ?_⟩
  rcases spares.location location with same | made | temporary
  · rw [same, found]
  · exact made.directory
  · exact absurd found temporary.spares

/-- Where a file was, there is one. -/
theorem isFile {location : Location} (spares : one.Spares path other)
    (found : one.find? location = some (.file content)) :
    ∃ content, other.find? location = some (.file content) := by
  rcases spares.location location with same | made | temporary
  · exact ⟨content, same.trans found⟩
  · exact absurd made.absent (by simp [found])
  · exact temporary.isFile

/-- A file that is not the temporary one is still read. -/
theorem read {file : Path} {location : Location} (spares : one.Spares path other)
    (resolved : one.resolve file = .ok location)
    (found : one.find? location = some (.file content))
    (apart : other.resolve (temporaryFor path) ≠ .ok location) : other.read file = .ok content := by
  rcases spares.location location with same | made | temporary
  · exact spares.keeps.read resolved found same
  · exact absurd made.absent (by simp [found])
  · exact absurd temporary.reached apart

end Spares

theorem spares_of_makes (makes : one.Makes (·.Above (temporaryFor path)) other) :
    one.Spares path other :=
  ⟨makes.workingDirectory, fun location => (makes.location location).imp_right .inl⟩

theorem spares_of_failed {failure : Failure} (failed : (disk.replace path content).failure =
    some failure) : disk.Spares path (disk.replace path content).disk := by
  obtain ⟨prepared, makes, replacement⟩ := replacement_replace disk path content
  generalize disk.replace path content = outcome at failed replacement
  cases replacement with
  | stopped failure => exact spares_of_makes makes
  | @written place temporaryName written failure temporary spares sets =>
      have keeps := sets.keeps spares
      refine ⟨sets.workingDirectory.trans makes.workingDirectory, fun location => ?_⟩
      by_cases here : location = place ++ [temporaryName]
      · subst here
        refine .inr (.inr ⟨?_, ⟨content, sets.here⟩, fun found => ?_⟩)
        · exact (temporary.kept keeps).resolve (by simp [sets.here]) (by simp)
        · exact spares (makes.keeps.directory _ found)
      · have same := sets.elsewhere here
        rcases makes.location location with sameToo | new
        · exact .inl (same.trans sameToo)
        · exact .inr (.inl (new.kept keeps))
  | done => cases failed

/-! ## Files that are never the temporary one -/

theorem ne_temporary_of_last {file : Path} {location : Location} {name : String}
    (resolved : one.resolve file = .ok location) (last : file.steps.getLast? = some (.into name))
    (ending : name ≠ path.fileName?.getD "dictionary" ++ ".tmp") :
    other.resolve (temporaryFor path) ≠ .ok location := by
  intro reached
  obtain ⟨directory, slash, -, rfl⟩ := names_of_resolve resolved last
  obtain ⟨place, slashToo, -, same⟩ := names_of_resolve reached (last_steps_temporaryFor path)
  exact ending (last_name_eq same)

theorem settings_ne_temporary {directory : Path} {location : Location}
    (resolved : one.resolve (Settings.path directory) = .ok location) :
    other.resolve (temporaryFor path) ≠ .ok location :=
  ne_temporary_of_last resolved (last_steps_settings directory)
    (ne_append_temporary (by decide))

theorem isDirectory_of_walk_here {start location : Location} {front : List Step}
    (walked : disk.walk start (front ++ [.here]) = .ok location) :
    disk.find? location = some .directory := by
  rw [walk_append] at walked
  obtain ⟨between, -, back⟩ := bind_eq_ok_iff.mp walked
  obtain ⟨last, entered, rest⟩ := bind_eq_ok_iff.mp back
  have found := enter_eq_ok entered
  cases rest
  simp only [enter, found, Except.ok.injEq] at entered
  rwa [← entered]

theorem isAbsolute_join {base below : Path} (relative : below.isAbsolute = false)
    (filled : base.text.toList ≠ []) : (base.join below).isAbsolute = base.isAbsolute := by
  have bare : base.text ≠ "" := fun bare => filled (by simp [bare])
  obtain ⟨c, rest, text⟩ := List.exists_cons_of_ne_nil filled
  unfold Path.join
  rw [relative, if_neg Bool.false_ne_true]
  split <;> simp [Path.isAbsolute, text]

/-- Without a name at its end, a path leads to the directory of its temporary file. -/
theorem walk_of_nameless {place : Location} {name : String} {slash : Bool}
    (filled : path.text.toList ≠ []) (nameless : path.fileName? = none)
    (names : disk.Names (temporaryFor path) place name slash) :
    disk.walk (disk.origin path) path.steps = .ok place := by
  obtain ⟨base, onto, joined⟩ := temporaryFor_eq path
  rw [onto nameless] at joined
  have named := isName_temporaryFor path
  obtain ⟨route, routed, walked, -⟩ := site_eq_ok_iff.mp names.site
  rw [(route_eq_ok_iff.mp routed).2] at walked
  simpa only [joined, origin, isAbsolute_join named.isRelative filled,
    named.steps_join, List.dropLast_concat] using walked

/-- A file that a path leads to is not its temporary file. -/
theorem file_ne_temporary {location : Location} (keeps : one.Keeps other)
    (resolved : one.resolve path = .ok location)
    (stays : ∃ content, other.find? location = some (.file content)) :
    other.resolve (temporaryFor path) ≠ .ok location := by
  obtain ⟨contentToo, stays⟩ := stays
  have resolvedToo := keeps.resolve resolved (by simp [stays])
  have possible := possible_of_resolve resolvedToo
  have plain := walk_of_resolve resolvedToo
  have noDirectory : other.find? location ≠ some .directory := by simp [stays]
  have direct (nameless : path.fileName? = none) :
      other.resolve (temporaryFor path) ≠ .ok location := by
    intro reached
    obtain ⟨place, slash, names, -⟩ := names_of_resolve reached (last_steps_temporaryFor path)
    have same := plain.symm.trans (walk_of_nameless possible.filled nameless names)
    rw [Except.ok.injEq] at same
    exact noDirectory (same ▸ names.isDirectory)
  cases last : path.steps.getLast? with
  | none => exact direct (fileName?_of_steps_eq_nil (List.getLast?_eq_none_iff.mp last))
  | some step =>
      cases step with
      | into name =>
          refine ne_temporary_of_last resolved last ?_
          rw [fileName?_of_last_into last]
          exact ne_self_temporary name
      | here =>
          rw [← List.dropLast_append_getLast? _ last] at plain
          exact absurd (isDirectory_of_walk_here plain) noDirectory
      | up => exact direct (fileName?_of_last_up last)

end Phrasebook.Disk
