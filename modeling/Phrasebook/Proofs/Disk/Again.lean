import Phrasebook.Proofs.Disk.Frame

/-! # Replacing a file again

A replacement that is done leaves the directories it needs and nothing at the place of the temporary
file. So it can be done again, with whatever content.
-/

namespace Phrasebook.Disk

variable {disk made : Disk} {path : Path} {directory place : Location} {name temporaryName : String}
  {content old : Bytes}

/-! ## Directories that are there -/

theorem makeOne_of_isDirectory (there : disk.isDirectory path = true) :
    disk.makeOne path = (disk, none) := by
  unfold makeOne
  cases performed : disk.perform (.makeDirectory path) with
  | error fault => simp [there]
  | ok made =>
      obtain ⟨directory, name, slash, names, absent, -⟩ := perform_makeDirectory performed
      obtain ⟨location, resolved, found⟩ := isDirectory_iff.mp there
      obtain ⟨directoryToo, slashToo, namesToo, rfl⟩ := names_of_resolve resolved names.last_steps
      obtain ⟨rfl, -⟩ := names.unique namesToo
      rw [absent] at found
      cases found

theorem isDirectory_of_makeOne (settled : disk.makeOne path = (made, none)) :
    made.isDirectory path = true := by
  unfold makeOne at settled
  cases performed : disk.perform (.makeDirectory path) with
  | error fault =>
      simp only [performed, Prod.mk.injEq, ite_eq_left_iff, reduceCtorEq, imp_false,
        Bool.not_eq_true, Bool.not_eq_false] at settled
      obtain ⟨rfl, there⟩ := settled
      exact there
  | ok changed =>
      simp only [performed, Prod.mk.injEq, and_true] at settled
      subst settled
      obtain ⟨directory, name, slash, names, absent, sets⟩ := perform_makeDirectory performed
      have kept := names.kept (sets.keeps (by simp [absent]))
      exact isDirectory_iff.mpr
        ⟨_, kept.resolve (by simp [sets.here]) fun _ => sets.here, sets.here⟩

theorem isDirectory_of_makeAll {above : List Path}
    (settled : disk.makeAll (path :: above) = (made, none)) : made.isDirectory path = true := by
  unfold makeAll at settled
  split at settled
  · split at settled
    · exact isDirectory_of_makeOne settled
    · next stopped => exact absurd settled (stopped made)
  · exact isDirectory_of_makeOne settled

theorem exists_ancestors (fuel : Nat) (filled : path.text ≠ "") :
    ∃ above, ancestors (fuel + 1) path = path :: above := by
  unfold ancestors
  rw [if_neg filled]
  cases path.parent? with
  | none => exact ⟨[], rfl⟩
  | some parent => exact ⟨_, rfl⟩

/-- The directory that a file is to be written in, where the path of the file names one. -/
def IsPrepared (disk : Disk) (path : Path) : Prop :=
  ∀ parent, path.parent? = some parent → parent.text ≠ "" → disk.isDirectory parent = true

theorem IsPrepared.kept {other : Disk} (prepared : disk.IsPrepared path)
    (keeps : disk.Keeps other) : other.IsPrepared path :=
  fun parent up filled => keeps.isDirectory (prepared parent up filled)

theorem isPrepared_prepare (prepared : disk.prepare path = ⟨made, none⟩) :
    made.IsPrepared path := by
  intro parent up filled
  obtain ⟨above, ancestors⟩ := exists_ancestors parent.text.length filled
  simp only [prepare, up, if_neg filled, makeDirectories, ancestors, Outcome.mk.injEq,
    Option.map_eq_none_iff] at prepared
  exact isDirectory_of_makeAll (Prod.ext prepared.1 prepared.2)

theorem IsPrepared.prepare_eq (prepared : disk.IsPrepared path) :
    disk.prepare path = { disk } := by
  unfold prepare
  split
  · next parent up =>
    split
    · rfl
    · next filled =>
      obtain ⟨above, ancestors⟩ := exists_ancestors parent.text.length filled
      have there := makeOne_of_isDirectory (prepared parent up filled)
      simp [makeDirectories, ancestors, makeAll, there]
  · rfl

/-! ## Operations that nothing stops -/

theorem writeFile_done (names : disk.Names path directory name false)
    (spares : disk.find? (directory ++ [name]) ≠ some .directory) (content : Bytes)
    (blamed : Path) :
    ∃ written, disk.attempt (.writeFile path content) blamed = ⟨written, none⟩ ∧
      disk.Sets (directory ++ [name]) (some (.file content)) written := by
  have wrote : disk.writeFile path content =
      .ok (disk.put (directory ++ [name]) (.file content)) := by
    refine bind_eq_ok_iff.mpr ⟨_, names.site, bind_eq_ok_iff.mpr ⟨directory ++ [name],
      at_eq_ok_iff.mpr ⟨names.short, rfl⟩, ?_⟩⟩
    cases found : disk.find? (directory ++ [name]) with
    | none => rfl
    | some node =>
        cases node with
        | file content => rfl
        | directory => exact absurd found spares
  let written : Disk :=
    { disk.put (directory ++ [name]) (.file content) with
      trail := .writeFile path content :: disk.trail }
  have performed : disk.perform (.writeFile path content) = .ok written :=
    perform_eq_ok_iff.mpr ⟨_, wrote, rfl⟩
  exact ⟨written, by rw [attempt, performed], put_sets ..⟩

theorem removeFile_done (names : disk.Names path directory name false)
    (found : disk.find? (directory ++ [name]) = some (.file old)) (blamed : Path) :
    ∃ removed, disk.attempt (.removeFile path) blamed = ⟨removed, none⟩ ∧
      disk.Sets (directory ++ [name]) none removed := by
  have removes : disk.removeFile path = .ok (disk.clear (directory ++ [name])) := by
    refine bind_eq_ok_iff.mpr ⟨_, names.site, bind_eq_ok_iff.mpr ⟨directory ++ [name],
      at_eq_ok_iff.mpr ⟨names.short, rfl⟩, ?_⟩⟩
    rw [found]
    rfl
  let removed : Disk :=
    { disk.clear (directory ++ [name]) with trail := .removeFile path :: disk.trail }
  have performed : disk.perform (.removeFile path) = .ok removed :=
    perform_eq_ok_iff.mpr ⟨_, removes, rfl⟩
  exact ⟨removed, by rw [attempt, performed], rfl, fun _ => find?_clear (by simp)⟩

/-- A file is replaced where its directories are there and no directory is at the temporary
    place. -/
theorem replace_done (prepared : disk.IsPrepared (temporaryFor path))
    (temporary : disk.Names (temporaryFor path) place temporaryName false)
    (spares : disk.find? (place ++ [temporaryName]) ≠ some .directory)
    (names : disk.Names path directory name false)
    (found : disk.find? (directory ++ [name]) = some (.file old)) (content : Bytes) :
    (disk.replace path content).failure = none := by
  have apart := temporary_ne names temporary
  obtain ⟨written, wrote, sets⟩ := writeFile_done temporary spares content (temporaryFor path)
  have keeps := sets.keeps spares
  have still : written.find? (directory ++ [name]) = some (.file old) := by
    rw [sets.elsewhere apart, found]
  have present : written.exists? path = true := by
    rw [exists?, (names.kept keeps).resolve (by simp [still]) (by simp)]
    rfl
  obtain ⟨removed, removes, setsToo⟩ := removeFile_done (names.kept keeps) still path
  have keepsToo := keeps.trans (setsToo.keeps (by simp [still]))
  have waiting : removed.find? (place ++ [temporaryName]) = some (.file content) := by
    rw [setsToo.elsewhere apart.symm, sets.here]
  have moved := perform_rename_iff.mpr ⟨place, temporaryName, directory, name, content,
    temporary.kept keepsToo, names.kept keepsToo, waiting, by simp [setsToo.here], rfl⟩
  rw [replace_eq, prepared.prepare_eq, andThen_done, wrote, andThen_done, if_pos present, removes,
    andThen_done, attempt, moved]

theorem isPrepared_of_done (done : (disk.replace path content).failure = none) :
    (disk.replace path content).disk.IsPrepared (temporaryFor path) := by
  cases prepared : disk.prepare (temporaryFor path) with
  | mk made failure =>
      cases failure with
      | some failure =>
          rw [replace_eq, prepared] at done
          cases done
      | none =>
          have ready := isPrepared_prepare prepared
          have same : disk.replace path content = made.replace path content := by
            rw [replace_eq, replace_eq, prepared, ready.prepare_eq]
          rw [same]
          exact ready.kept (keeps_replace made path content)

/-- A replacement that is done can be done again. -/
theorem replace_again (done : (disk.replace path content).failure = none) (contentToo : Bytes) :
    ((disk.replace path content).disk.replace path contentToo).failure = none := by
  have ready := isPrepared_of_done done
  obtain ⟨prepared, -, replacement⟩ := replacement_replace disk path content
  have keeps := replacement.keeps
  generalize disk.replace path content = outcome at done ready replacement keeps ⊢
  cases replacement with
  | stopped | written => cases done
  | @done place directory temporaryName name replaced temporary spares names sparesToo
      workingDirectory find? =>
      have onto := temporary.kept keeps
      have free : replaced.find? (place ++ [temporaryName]) = none := by
        rw [find?, if_neg (temporary_ne names onto).symm, if_pos rfl]
      have found : replaced.find? (directory ++ [name]) = some (.file content) := by
        rw [find?, if_pos rfl]
      exact replace_done ready onto (by simp [free]) names found contentToo

end Phrasebook.Disk
