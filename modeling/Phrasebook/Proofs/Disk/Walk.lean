import Mathlib.Data.List.Basic
import Phrasebook.Disk.Tree

/-! # Walking a disk that changes

A walk looks at nothing but the directories that it passes. Where a change keeps all directories, a
path therefore leads where it led, as long as something is there at its end.
-/

namespace Phrasebook.Disk

/-- A result that comes in two steps. -/
theorem bind_eq_ok_iff {ε α β : Type} {first : Except ε α} {next : α → Except ε β} {result : β} :
    first >>= next = .ok result ↔ ∃ value, first = .ok value ∧ next value = .ok result := by
  cases first with
  | error fault => simp [bind, Except.bind]
  | ok value => simp [bind, Except.bind]

/-! ## What is at a location -/

@[simp]
theorem find?_root (disk : Disk) : disk.find? [] = some .directory := rfl

theorem lookup_filter_ne {location other : Location} (nodes : List (Location × Node)) :
    (nodes.filter (·.1 != location)).lookup other =
      if other = location then none else nodes.lookup other := by
  induction nodes with
  | nil => simp
  | cons node nodes ih =>
      obtain ⟨first, node⟩ := node
      by_cases gone : first = location
      · subst gone
        rw [List.filter_cons_of_neg (by simp), ih]
        by_cases same : other = first
        · simp [same]
        · simp [same, List.lookup_cons, beq_eq_false_iff_ne.mpr same]
      · rw [List.filter_cons_of_pos (by simpa using gone)]
        by_cases same : other = first
        · subst same
          simp [gone]
        · simp only [List.lookup_cons, beq_eq_false_iff_ne.mpr same, ih]

theorem find?_clear {disk : Disk} {location other : Location} (below : location ≠ []) :
    (disk.clear location).find? other = if other = location then none else disk.find? other := by
  unfold find? clear
  by_cases root : other = []
  · simp [root, Ne.symm below]
  · simp only [root, if_false, lookup_filter_ne]

theorem find?_put {disk : Disk} {location other : Location} (node : Node) (below : location ≠ []) :
    (disk.put location node).find? other =
      if other = location then some node else disk.find? other := by
  unfold find? put
  by_cases root : other = []
  · simp [root, Ne.symm below]
  · by_cases same : other = location
    · simp [same, below]
    · simp only [root, same, if_false, List.lookup_cons, beq_eq_false_iff_ne.mpr same,
        lookup_filter_ne]

/-! ## Routes and sites -/

/-- The steps that a path asks for. -/
def Path.steps (path : Path) : List Step :=
  path.pieces.filterMap Step.ofPiece?

/-- Where a walk along a path starts. -/
def origin (disk : Disk) (path : Path) : Location :=
  if path.isAbsolute then [] else disk.workingDirectory

/-- A path that can be walked at all. -/
structure Path.IsPossible (path : Path) : Prop where
  plain : '\x00' ∉ path.text.toList
  filled : path.text.toList ≠ []
  short : path.text.utf8ByteSize ≤ pathLimit

theorem route_eq_ok_iff {disk : Disk} {path : Path} {route : Route} :
    disk.route path = .ok route ↔
      path.IsPossible ∧
        route = ⟨disk.origin path, path.steps,
          path.text.toList.getLast? == some '/' && path.steps != []⟩ := by
  unfold Disk.route
  by_cases nul : path.text.toList.contains '\x00' = true
  · have broken : ¬path.IsPossible := fun possible => possible.plain (List.contains_iff_mem.mp nul)
    simp only [nul, if_true, broken, false_and, reduceCtorEq]
  · by_cases empty : path.text.toList = []
    · have broken : ¬path.IsPossible := fun possible => possible.filled empty
      simp [empty, broken]
    · by_cases long : pathLimit < path.text.utf8ByteSize
      · have broken : ¬path.IsPossible := fun possible => Nat.not_le.mpr long possible.short
        simp only [nul, empty, long, if_true, if_false, broken, false_and, reduceCtorEq,
          Bool.false_eq_true]
      · have possible : path.IsPossible :=
          ⟨mt List.contains_iff_mem.mpr nul, empty, Nat.not_lt.mp long⟩
        simp only [nul, empty, long, if_false, Bool.false_eq_true, Except.ok.injEq, possible,
          true_and]
        exact eq_comm

theorem steps_of_route {disk : Disk} {path : Path} {route : Route}
    (routed : disk.route path = .ok route) : route.steps = path.steps := by
  rw [(route_eq_ok_iff.mp routed).2]

theorem resolve_eq_ok_iff {disk : Disk} {path : Path} {location : Location} :
    disk.resolve path = .ok location ↔
      ∃ route, disk.route path = .ok route ∧
        disk.walk route.start (route.steps ++ if route.slash then [.here] else []) =
          .ok location :=
  bind_eq_ok_iff

theorem possible_of_resolve {disk : Disk} {path : Path} {location : Location}
    (resolved : disk.resolve path = .ok location) : path.IsPossible := by
  obtain ⟨route, routed, -⟩ := resolve_eq_ok_iff.mp resolved
  exact (route_eq_ok_iff.mp routed).1

theorem site_eq_ok_iff {disk : Disk} {path : Path} {site : Site} :
    disk.site path = .ok site ↔
      ∃ route, disk.route path = .ok route ∧
        disk.walk route.start route.steps.dropLast = .ok site.directory ∧
        disk.find? site.directory = some .directory ∧
        site.last = route.steps.getLast? ∧ site.slash = route.slash := by
  unfold Disk.site
  rw [bind_eq_ok_iff]
  refine exists_congr fun route => and_congr_right fun _ => ?_
  rw [bind_eq_ok_iff]
  constructor
  · rintro ⟨directory, walked, met⟩
    split at met
    · next found =>
      cases met
      exact ⟨walked, found, rfl, rfl⟩
    · cases met
    · cases met
  · rintro ⟨walked, found, last, slash⟩
    refine ⟨site.directory, walked, ?_⟩
    rw [found]
    obtain ⟨directory, siteLast, siteSlash⟩ := site
    cases last
    cases slash
    rfl

theorem walk_append {disk : Disk} {location : Location} {front back : List Step} :
    disk.walk location (front ++ back) = (disk.walk location front).bind (disk.walk · back) := by
  induction front generalizing location with
  | nil => rfl
  | cons step front ih =>
      simp only [List.cons_append, walk, bind, Except.bind]
      cases disk.enter location step with
      | error fault => rfl
      | ok next => exact ih

theorem enter_eq_ok {disk : Disk} {location next : Location} {step : Step}
    (entered : disk.enter location step = .ok next) : disk.find? location = some .directory := by
  unfold enter at entered
  split at entered
  · assumption
  · cases entered
  · cases entered

theorem enter_into_eq_ok_iff {disk : Disk} {location next : Location} {name : String} :
    disk.enter location (.into name) = .ok next ↔
      disk.find? location = some .directory ∧ name.utf8ByteSize ≤ nameLimit ∧
        (disk.find? (location ++ [name])).isSome ∧ next = location ++ [name] := by
  unfold enter
  cases disk.find? location with
  | none => simp
  | some node =>
      cases node with
      | file content => simp
      | directory =>
          by_cases long : nameLimit < name.utf8ByteSize
          · simp [long, Nat.not_le.mpr long]
          · cases found : disk.find? (location ++ [name]) with
            | none => simp [long, found]
            | some node => simp [long, found, Nat.not_lt.mp long, eq_comm]

/-- A slash at the end of a path asks for a directory; the way is that of the steps. -/
theorem walk_of_resolve {disk : Disk} {path : Path} {location : Location}
    (resolved : disk.resolve path = .ok location) :
    disk.walk (disk.origin path) path.steps = .ok location := by
  obtain ⟨route, routed, walked⟩ := resolve_eq_ok_iff.mp resolved
  obtain ⟨-, rfl⟩ := route_eq_ok_iff.mp routed
  dsimp only at walked
  split at walked
  · rw [walk_append] at walked
    obtain ⟨between, front, back⟩ := bind_eq_ok_iff.mp walked
    obtain ⟨next, entered, rest⟩ := bind_eq_ok_iff.mp back
    have found := enter_eq_ok entered
    rw [enter, found] at entered
    cases entered
    cases rest
    exact front
  · rwa [List.append_nil] at walked

/-! ## Keeping directories -/

/-- Every directory of one disk is one of the other too, and both are looked at from the same
    place. -/
structure Keeps (one other : Disk) : Prop where
  workingDirectory : other.workingDirectory = one.workingDirectory
  directory : ∀ location, one.find? location = some .directory →
    other.find? location = some .directory

namespace Keeps

variable {one other another : Disk} {path : Path} {location reached : Location}

theorem refl (disk : Disk) : disk.Keeps disk :=
  ⟨rfl, fun _ found => found⟩

theorem trans (first : one.Keeps other) (second : other.Keeps another) : one.Keeps another :=
  ⟨second.workingDirectory.trans first.workingDirectory,
    fun location found => second.directory location (first.directory location found)⟩

theorem route (keeps : one.Keeps other) (path : Path) : other.route path = one.route path := by
  unfold Disk.route
  rw [keeps.workingDirectory]

theorem origin (keeps : one.Keeps other) (path : Path) : other.origin path = one.origin path := by
  rw [Disk.origin, Disk.origin, keeps.workingDirectory]

theorem enter (keeps : one.Keeps other) {step : Step}
    (entered : one.enter location step = .ok reached) (present : (other.find? reached).isSome) :
    other.enter location step = .ok reached := by
  have directory := enter_eq_ok entered
  cases step with
  | here => simpa [Disk.enter, directory, keeps.directory _ directory] using entered
  | up => simpa [Disk.enter, directory, keeps.directory _ directory] using entered
  | into name =>
      obtain ⟨-, short, -, rfl⟩ := enter_into_eq_ok_iff.mp entered
      exact enter_into_eq_ok_iff.mpr ⟨keeps.directory _ directory, short, present, rfl⟩

theorem walk (keeps : one.Keeps other) {steps : List Step}
    (walked : one.walk location steps = .ok reached) (present : (other.find? reached).isSome) :
    other.walk location steps = .ok reached := by
  induction steps generalizing location with
  | nil => exact walked
  | cons step rest ih =>
      obtain ⟨next, entered, walked⟩ := bind_eq_ok_iff.mp walked
      have passed : (other.find? next).isSome := by
        cases rest with
        | nil =>
            cases walked
            exact present
        | cons step rest =>
            obtain ⟨later, entered, -⟩ := bind_eq_ok_iff.mp walked
            simp [keeps.directory _ (enter_eq_ok entered)]
      exact bind_eq_ok_iff.mpr ⟨next, keeps.enter entered passed, ih walked⟩

/-- A path leads where it led if something is still there. -/
theorem resolve (keeps : one.Keeps other) (resolved : one.resolve path = .ok reached)
    (present : (other.find? reached).isSome) : other.resolve path = .ok reached := by
  obtain ⟨route, routed, walked⟩ := resolve_eq_ok_iff.mp resolved
  exact resolve_eq_ok_iff.mpr
    ⟨route, (keeps.route path).trans routed, keeps.walk walked present⟩

theorem site (keeps : one.Keeps other) {site : Site} (sited : one.site path = .ok site) :
    other.site path = .ok site := by
  obtain ⟨route, routed, walked, found, last, slash⟩ := site_eq_ok_iff.mp sited
  have kept := keeps.directory _ found
  exact site_eq_ok_iff.mpr ⟨route, (keeps.route path).trans routed,
    keeps.walk walked (by simp [kept]), kept, last, slash⟩

end Keeps

/-! ## Reading -/

theorem read_eq_ok_iff {disk : Disk} {path : Path} {content : Bytes} :
    disk.read path = .ok content ↔
      ∃ location, disk.resolve path = .ok location ∧
        disk.find? location = some (.file content) := by
  unfold read
  rw [bind_eq_ok_iff]
  refine exists_congr fun location => and_congr_right fun _ => ?_
  cases disk.find? location with
  | none => simp
  | some node => cases node <;> simp

/-- What is read stays to be read where its location stays as it was. -/
theorem Keeps.read {one other : Disk} {path : Path} {location : Location} {content : Bytes}
    (keeps : one.Keeps other) (resolved : one.resolve path = .ok location)
    (found : one.find? location = some (.file content))
    (same : other.find? location = one.find? location) : other.read path = .ok content := by
  rw [found] at same
  exact read_eq_ok_iff.mpr ⟨location, keeps.resolve resolved (by simp [same]), same⟩

theorem isDirectory_iff {disk : Disk} {path : Path} :
    disk.isDirectory path = true ↔
      ∃ location, disk.resolve path = .ok location ∧ disk.find? location = some .directory := by
  unfold Disk.isDirectory node?
  cases disk.resolve path <;> simp

theorem Keeps.isDirectory {one other : Disk} {path : Path} (keeps : one.Keeps other)
    (there : one.isDirectory path = true) : other.isDirectory path = true := by
  obtain ⟨location, resolved, found⟩ := isDirectory_iff.mp there
  have kept := keeps.directory location found
  exact isDirectory_iff.mpr ⟨location, keeps.resolve resolved (by simp [kept]), kept⟩

/-! ## Places -/

/-- A path names a place: its last step leads there from a directory, whether or not anything is
    there. -/
structure Names (disk : Disk) (path : Path) (directory : Location) (name : String)
    (slash : Bool) : Prop where
  site : disk.site path = .ok ⟨directory, some (.into name), slash⟩
  short : name.utf8ByteSize ≤ nameLimit

namespace Names

variable {disk other : Disk} {path : Path} {directory : Location} {name : String} {slash : Bool}

theorem isDirectory (names : disk.Names path directory name slash) :
    disk.find? directory = some .directory := by
  obtain ⟨_, -, -, found, -⟩ := site_eq_ok_iff.mp names.site
  exact found

theorem last_steps (names : disk.Names path directory name slash) :
    path.steps.getLast? = some (.into name) := by
  obtain ⟨_, routed, -, -, last, -⟩ := site_eq_ok_iff.mp names.site
  rw [← steps_of_route routed]
  exact last.symm

theorem kept (names : disk.Names path directory name slash) (keeps : disk.Keeps other) :
    other.Names path directory name slash :=
  ⟨keeps.site names.site, names.short⟩

/-- A place where something is, is where its path leads. A slash at the end asks for a directory. -/
theorem resolve (names : disk.Names path directory name slash)
    (present : (disk.find? (directory ++ [name])).isSome)
    (fits : slash = true → disk.find? (directory ++ [name]) = some .directory) :
    disk.resolve path = .ok (directory ++ [name]) := by
  obtain ⟨route, routed, walked, found, last, rfl⟩ := site_eq_ok_iff.mp names.site
  refine resolve_eq_ok_iff.mpr ⟨route, routed, ?_⟩
  have steps : route.steps = route.steps.dropLast ++ [.into name] :=
    (List.dropLast_append_getLast? _ last.symm).symm
  have entered : disk.enter directory (.into name) = .ok (directory ++ [name]) :=
    enter_into_eq_ok_iff.mpr ⟨found, names.short, present, rfl⟩
  rw [steps, List.append_assoc, walk_append, walked]
  change disk.walk directory (.into name :: _) = _
  refine bind_eq_ok_iff.mpr ⟨directory ++ [name], entered, ?_⟩
  cases slashed : route.slash with
  | false => rfl
  | true =>
      have stays : disk.enter (directory ++ [name]) .here = .ok (directory ++ [name]) := by
        simp [enter, fits slashed]
      exact bind_eq_ok_iff.mpr ⟨directory ++ [name], stays, rfl⟩

/-- Where nothing is, no path leads. -/
theorem resolve_of_absent (names : disk.Names path directory name slash)
    (absent : disk.find? (directory ++ [name]) = none) :
    disk.resolve path = .error .notFound := by
  obtain ⟨route, routed, walked, found, last, -⟩ := site_eq_ok_iff.mp names.site
  have steps : route.steps = route.steps.dropLast ++ [.into name] :=
    (List.dropLast_append_getLast? _ last.symm).symm
  have stuck : disk.enter directory (.into name) = .error .notFound := by
    unfold enter
    rw [found]
    simp only [Nat.not_lt.mpr names.short, if_false, absent]
  unfold Disk.resolve
  rw [routed]
  change disk.walk route.start (route.steps ++ _) = _
  rw [steps, List.append_assoc, walk_append, walked]
  change disk.enter directory (.into name) >>= _ = _
  rw [stuck]
  rfl

end Names

/-- A path whose last step is a name leads to a place of that name. -/
theorem names_of_resolve {disk : Disk} {path : Path} {location : Location} {name : String}
    (resolved : disk.resolve path = .ok location) (last : path.steps.getLast? = some (.into name)) :
    ∃ directory slash, disk.Names path directory name slash ∧ location = directory ++ [name] := by
  obtain ⟨route, routed, -⟩ := resolve_eq_ok_iff.mp resolved
  obtain ⟨-, rfl⟩ := route_eq_ok_iff.mp routed
  have walked := walk_of_resolve resolved
  rw [← List.dropLast_append_getLast? _ last, walk_append] at walked
  obtain ⟨directory, front, back⟩ := bind_eq_ok_iff.mp walked
  obtain ⟨next, entered, rest⟩ := bind_eq_ok_iff.mp back
  obtain ⟨found, short, -, rfl⟩ := enter_into_eq_ok_iff.mp entered
  cases rest
  exact ⟨directory, _, ⟨site_eq_ok_iff.mpr ⟨_, routed, front, found, last.symm, rfl⟩, short⟩, rfl⟩

end Phrasebook.Disk
