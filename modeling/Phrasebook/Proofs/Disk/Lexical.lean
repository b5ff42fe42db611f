import Phrasebook.Disk.Layout
import Phrasebook.Proofs.Disk.Frame

/-! # Where a path leads without looking

A walk that comes through ends where the steps of its path lead when nothing on the way is looked
at. Whether it comes through depends on what is on the way: a step up leads back from a directory
only if the directory is there. So a file can lie where a path leads and not be reached by it.
-/

namespace Phrasebook.Disk

variable {disk : Disk} {path : Path} {location reached : Location}

namespace Location

theorem after_append (location : Location) (front back : List Step) :
    after location (front ++ back) = after (after location front) back := by
  induction front generalizing location with
  | nil => rfl
  | cons step front ih =>
      cases step with
      | here => exact ih location
      | up => exact ih location.dropLast
      | into name => exact ih (location ++ [name])

theorem after_of_last {steps : List Step} {name : String}
    (last : steps.getLast? = some (.into name)) :
    after location steps = after location steps.dropLast ++ [name] := by
  conv => lhs; rw [← List.dropLast_append_getLast? _ last, after_append]
  rfl

end Location

theorem enter_eq_after {step : Step} (entered : disk.enter location step = .ok reached) :
    reached = Location.after location [step] := by
  have found := enter_eq_ok entered
  cases step with
  | here =>
      rw [enter, found] at entered
      cases entered
      rfl
  | up =>
      rw [enter, found] at entered
      cases entered
      rfl
  | into name =>
      obtain ⟨-, -, -, rfl⟩ := enter_into_eq_ok_iff.mp entered
      rfl

theorem walk_eq_after {steps : List Step} (walked : disk.walk location steps = .ok reached) :
    reached = Location.after location steps := by
  induction steps generalizing location with
  | nil =>
      cases walked
      rfl
  | cons step rest ih =>
      obtain ⟨next, entered, walked⟩ := bind_eq_ok_iff.mp walked
      rw [ih walked, enter_eq_after entered, ← Location.after_append]
      rfl

/-- A path that leads somewhere leads to the location that it names. -/
theorem eq_locationOf (resolved : disk.resolve path = .ok location) :
    location = disk.locationOf path :=
  walk_eq_after (walk_of_resolve resolved)

theorem locationOf_of_last (disk : Disk) {name : String}
    (last : path.steps.getLast? = some (.into name)) :
    ∃ directory, disk.locationOf path = directory ++ [name] :=
  ⟨_, Location.after_of_last last⟩

theorem Keeps.locationOf {one other : Disk} (keeps : one.Keeps other) (path : Path) :
    other.locationOf path = one.locationOf path := by
  rw [Disk.locationOf, Disk.locationOf, keeps.workingDirectory]

/-! ## Files that are reached -/

/-- If there is a file at the location that a path names, the path leads to it. A path that cannot
    be walked at all leads nowhere. -/
def Reaches (disk : Disk) (path : Path) : Prop :=
  path.IsPossible → ∀ content, disk.find? (disk.locationOf path) = some (.file content) →
    disk.resolve path = .ok (disk.locationOf path)

theorem reaches_of_resolve (resolved : disk.resolve path = .ok location) : disk.Reaches path :=
  fun _ _ _ => eq_locationOf resolved ▸ resolved

/-- What is read at such a path is what lies at the location. -/
theorem Reaches.read_iff (reaches : disk.Reaches path) {content : Bytes} :
    disk.read path = .ok content ↔
      path.IsPossible ∧ disk.find? (disk.locationOf path) = some (.file content) := by
  rw [read_eq_ok_iff]
  constructor
  · rintro ⟨location, resolved, found⟩
    exact ⟨possible_of_resolve resolved, eq_locationOf resolved ▸ found⟩
  · rintro ⟨possible, found⟩
    exact ⟨_, reaches possible content found, found⟩

/-- Where the same files lie at the location, the path still reaches them. -/
theorem Reaches.kept {one other : Disk} (reaches : one.Reaches path) (keeps : one.Keeps other)
    (same : ∀ content, other.find? (one.locationOf path) = some (.file content) ↔
      one.find? (one.locationOf path) = some (.file content)) : other.Reaches path := by
  intro possible content found
  rw [keeps.locationOf] at found ⊢
  exact keeps.resolve (reaches possible content ((same content).mp found)) (by simp [found])

/-! ## Names in a directory -/

theorem IsName.locationOf_join {name : String} (named : IsName name) (base : Path) :
    disk.locationOf (base.join ⟨name⟩) =
      Location.after (disk.origin (base.join ⟨name⟩)) base.steps ++ [name] := by
  change Location.after (disk.origin _) (base.join ⟨name⟩).steps = _
  rw [named.steps_join, Location.after_append]
  rfl

theorem slash_join {base : Path} {name : String} (named : IsName name) :
    (base.join ⟨name⟩).text.toList.getLast? ≠ some '/' := by
  have filled : name.toList ≠ [] := fun empty => named.proper (by simp [empty])
  obtain ⟨front, joined⟩ : ∃ front, (base.join ⟨name⟩).text.toList = front ++ name.toList := by
    unfold Path.join
    rw [named.isRelative, if_neg Bool.false_ne_true]
    split
    · exact ⟨base.text.toList, String.toList_append⟩
    · exact ⟨(base.text ++ "/").toList, String.toList_append⟩
  rw [joined, List.getLast?_append, List.getLast?_eq_some_getLast filled, Option.some_or]
  intro slash
  exact named.unbroken (Option.some.inj slash ▸ List.getLast_mem filled)

/-- A name that is in the directory where the steps before it lead is reached. -/
theorem resolve_join {base : Path} {name : String} (named : IsName name)
    (short : name.utf8ByteSize ≤ nameLimit) (possible : (base.join ⟨name⟩).IsPossible)
    (walked : disk.walk (disk.origin (base.join ⟨name⟩)) base.steps = .ok location)
    (directory : disk.find? location = some .directory)
    (present : (disk.find? (location ++ [name])).isSome) :
    disk.resolve (base.join ⟨name⟩) = .ok (location ++ [name]) := by
  have slash : ((base.join ⟨name⟩).text.toList.getLast? == some '/' &&
      (base.join ⟨name⟩).steps != []) = false := by
    simp [slash_join named]
  have names : disk.Names (base.join ⟨name⟩) location name false := by
    refine ⟨site_eq_ok_iff.mpr ⟨_, route_eq_ok_iff.mpr ⟨possible, rfl⟩, ?_, directory, ?_, ?_⟩,
      short⟩
    · rwa [named.steps_join, List.dropLast_concat]
    · rw [named.steps_join, List.getLast?_concat]
    · exact slash.symm
  exact names.resolve present (by simp)

/-- A path to a name in a directory that exists reaches the file of that name. -/
theorem reaches_join {base : Path} {name : String} (named : IsName name)
    (short : name.utf8ByteSize ≤ nameLimit) (directory : disk.isDirectory base = true) :
    disk.Reaches (base.join ⟨name⟩) := by
  intro possible content found
  obtain ⟨location, resolved, isDirectory⟩ := isDirectory_iff.mp directory
  have origin : disk.origin (base.join ⟨name⟩) = disk.origin base := by
    have filled := (possible_of_resolve resolved).filled
    rw [Disk.origin, Disk.origin, isAbsolute_join named.isRelative filled]
  have walked := origin ▸ walk_of_resolve resolved
  rw [named.locationOf_join, ← walk_eq_after walked] at found ⊢
  exact resolve_join named short possible walked isDirectory (by simp [found])

/-- Everything lies in a directory, under a name that is not too long. -/
structure IsTree (disk : Disk) : Prop where
  above : ∀ location name, (disk.find? (location ++ [name])).isSome →
    disk.find? location = some .directory ∧ name.utf8ByteSize ≤ nameLimit

namespace IsTree

theorem of_nodes (each : ∀ node ∈ disk.nodes,
    disk.find? node.1.dropLast = some .directory ∧
      ∀ name ∈ node.1, name.utf8ByteSize ≤ nameLimit) : disk.IsTree := by
  constructor
  intro location name present
  obtain ⟨node, found⟩ := Option.isSome_iff_exists.mp present
  rw [find?, if_neg (by simp)] at found
  obtain ⟨front, back, nodes, -⟩ := List.lookup_eq_some_iff.mp found
  obtain ⟨directory, short⟩ := each (location ++ [name], node) (by simp [nodes])
  rw [List.dropLast_concat] at directory
  exact ⟨directory, short name List.mem_concat_self⟩

/-- Without a step up, a walk to a directory comes through. -/
theorem walk (tree : disk.IsTree) {steps : List Step} (level : .up ∉ steps)
    (directory : disk.find? (Location.after location steps) = some .directory) :
    disk.find? location = some .directory ∧
      disk.walk location steps = .ok (Location.after location steps) := by
  induction steps generalizing location with
  | nil => exact ⟨directory, rfl⟩
  | cons step rest ih =>
      obtain ⟨-, later⟩ := not_or.mp (mt List.mem_cons.mpr level)
      cases step with
      | up => exact absurd List.mem_cons_self level
      | here =>
          obtain ⟨found, walked⟩ := ih later directory
          exact ⟨found, bind_eq_ok_iff.mpr ⟨location, by simp [enter, found], walked⟩⟩
      | into name =>
          obtain ⟨found, walked⟩ := ih later directory
          obtain ⟨above, short⟩ := tree.above location name (by simp [found])
          refine ⟨above, bind_eq_ok_iff.mpr ⟨location ++ [name], ?_, walked⟩⟩
          exact enter_into_eq_ok_iff.mpr ⟨above, short, by simp [found], rfl⟩

/-- Without a step up, a path reaches the file that it names. -/
theorem reaches (tree : disk.IsTree) {base : Path} {name : String} (named : IsName name)
    (level : .up ∉ base.steps) : disk.Reaches (base.join ⟨name⟩) := by
  intro possible content found
  rw [named.locationOf_join] at found ⊢
  obtain ⟨directory, short⟩ := tree.above _ name (Option.isSome_iff_exists.mpr ⟨_, found⟩)
  obtain ⟨-, walked⟩ := tree.walk level directory
  exact resolve_join named short possible walked directory (by simp [found])

end IsTree

end Phrasebook.Disk
