import Phrasebook.Proofs.Disk.Ancestors
import Phrasebook.Proofs.Disk.Lexical

/-! # What a replacement changes

A replacement that is done puts the content where the path leads, takes the temporary file away and
changes nothing else but that directories above the path were made. A replacement that fails leaves
what is at the path as it was.

Where nothing is at the path, making directories above the temporary file could let the path lead
somewhere: a step up comes through as soon as the place that it is taken from is there. So it is
asked of such a path that its steps up were taken from places that are there already. Then a walk
that comes through only now passes a new directory from which it does not come back up, and ends
deeper than any directory that was made.
-/

namespace Phrasebook.Disk

variable {disk one other : Disk} {path : Path} {start location reached : Location}
  {steps : List Step} {content : Bytes}

/-! ## Sound disks -/

/-- A disk as a file system keeps it: everything lies in a directory, and the working directory is
    one. -/
structure IsSound (disk : Disk) : Prop extends disk.IsTree where
  standing : disk.find? disk.workingDirectory = some .directory

theorem IsSound.find?_origin (sound : disk.IsSound) (path : Path) :
    disk.find? (disk.origin path) = some .directory := by
  unfold Disk.origin
  split
  · exact find?_root disk
  · exact sound.standing

namespace IsTree

/-- What is anywhere has everything above it. -/
theorem isSome_of_append (tree : disk.IsTree) {below : List String}
    (present : (disk.find? (location ++ below)).isSome) : (disk.find? location).isSome := by
  induction below generalizing location with
  | nil => simpa using present
  | cons name below ih =>
      rw [List.append_cons] at present
      have directory := (tree.above location name (ih present)).1
      simp [directory]

theorem isSome_dropLast (tree : disk.IsTree) (present : (disk.find? location).isSome) :
    (disk.find? location.dropLast).isSome := by
  rcases List.eq_nil_or_concat location with rfl | ⟨front, name, rfl⟩
  · exact present
  · rw [List.concat_eq_append] at present ⊢
    rw [List.dropLast_concat]
    exact tree.isSome_of_append present

theorem isSome_of_enter (tree : disk.IsTree) {step : Step}
    (entered : disk.enter location step = .ok reached) : (disk.find? reached).isSome := by
  have found := enter_eq_ok entered
  cases step with
  | into name =>
      obtain ⟨-, -, present, rfl⟩ := enter_into_eq_ok_iff.mp entered
      exact present
  | here =>
      obtain rfl := enter_eq_after entered
      exact Option.isSome_iff_exists.mpr ⟨_, found⟩
  | up =>
      obtain rfl := enter_eq_after entered
      exact tree.isSome_dropLast (by simp [found])

theorem isSome_of_walk (tree : disk.IsTree) (present : (disk.find? location).isSome)
    (walked : disk.walk location steps = .ok reached) : (disk.find? reached).isSome := by
  induction steps generalizing location with
  | nil =>
      cases walked
      exact present
  | cons step rest ih =>
      obtain ⟨next, entered, walked⟩ := bind_eq_ok_iff.mp walked
      exact ih (tree.isSome_of_enter entered) walked

end IsTree

/-! ## Moves -/

/-- Without a step up, a walk ends below where it starts, and further down unless it stands
    still. -/
theorem exists_after (location : Location) (level : .up ∉ steps) :
    ∃ below, Location.after location steps = location ++ below ∧
      (below = [] → ∀ step ∈ steps, step = .here) := by
  induction steps generalizing location with
  | nil => exact ⟨[], (List.append_nil location).symm, by simp⟩
  | cons step rest ih =>
      obtain ⟨first, later⟩ := not_or.mp (mt List.mem_cons.mpr level)
      cases step with
      | up => exact absurd rfl first
      | here =>
          obtain ⟨below, ends, still⟩ := ih location later
          exact ⟨below, ends, fun none => List.forall_mem_cons.mpr ⟨rfl, still none⟩⟩
      | into name =>
          obtain ⟨below, ends, -⟩ := ih (location ++ [name]) later
          exact ⟨name :: below, ends.trans (List.append_assoc ..), nofun⟩

theorem walk_filter (walked : disk.walk location steps = .ok reached) :
    disk.walk location (steps.filter (· != .here)) = .ok reached := by
  induction steps generalizing location with
  | nil => exact walked
  | cons step rest ih =>
      obtain ⟨next, entered, further⟩ := bind_eq_ok_iff.mp walked
      by_cases here : step = .here
      · subst here
        obtain rfl := enter_eq_after entered
        exact ih further
      · rw [List.filter_cons_of_pos (by simpa using here)]
        exact bind_eq_ok_iff.mpr ⟨next, entered, ih further⟩

theorem walk_moves (resolved : disk.resolve path = .ok reached) :
    disk.walk (disk.origin path) path.moves = .ok reached := by
  rw [moves_eq_filter]
  exact walk_filter (walk_of_resolve resolved)

/-- Every step up is taken from a place that is there. -/
def Climbs (disk : Disk) (start : Location) (steps : List Step) : Prop :=
  ∀ front back, steps = front ++ .up :: back → ∃ location, disk.walk start front = .ok location

namespace Climbs

theorem of_level (level : .up ∉ steps) : disk.Climbs start steps := by
  intro front back same
  exact absurd (same ▸ List.mem_append_right front List.mem_cons_self) level

theorem exists_enter {step : Step} (climbs : disk.Climbs start (step :: steps))
    (climb : .up ∈ steps) : ∃ next, disk.enter start step = .ok next := by
  obtain ⟨front, back, rfl⟩ := List.append_of_mem climb
  obtain ⟨location, walked⟩ := climbs (step :: front) back rfl
  obtain ⟨next, entered, -⟩ := bind_eq_ok_iff.mp walked
  exact ⟨next, entered⟩

theorem tail {step : Step} {next : Location} (climbs : disk.Climbs start (step :: steps))
    (entered : disk.enter start step = .ok next) : disk.Climbs next steps := by
  intro front back same
  obtain ⟨location, walked⟩ := climbs (step :: front) back (congrArg (step :: ·) same)
  obtain ⟨nextToo, enteredToo, further⟩ := bind_eq_ok_iff.mp walked
  cases entered.symm.trans enteredToo
  exact ⟨location, further⟩

theorem filter (climbs : disk.Climbs start steps) :
    disk.Climbs start (steps.filter (· != .here)) := by
  intro front back same
  obtain ⟨before, after, rfl, rfl, rest⟩ := List.filter_eq_append_iff.mp same
  obtain ⟨still, behind, rfl, idle, -, -⟩ := List.filter_eq_cons_iff.mp rest
  obtain ⟨location, walked⟩ := climbs (before ++ still) behind (List.append_assoc ..).symm
  have passed : still.filter (· != .here) = [] := List.filter_eq_nil_iff.mpr idle
  have moved := walk_filter walked
  rw [List.filter_append, passed, List.append_nil] at moved
  exact ⟨location, moved⟩

/-- A place from which a walk goes on to a step up is there. -/
theorem isSome_after {front : List Step} (climbs : disk.Climbs start (front ++ steps))
    (tree : disk.IsTree) (standing : (disk.find? start).isSome) (climb : .up ∈ steps) :
    (disk.find? (Location.after start front)).isSome := by
  obtain ⟨between, back, rfl⟩ := List.append_of_mem climb
  obtain ⟨location, walked⟩ := climbs (front ++ between) back (List.append_assoc ..).symm
  rw [walk_append] at walked
  obtain ⟨place, before, -⟩ := bind_eq_ok_iff.mp walked
  exact walk_eq_after before ▸ tree.isSome_of_walk standing before

end Climbs

theorem climbs_moves (climbs : disk.Climbs start path.steps) : disk.Climbs start path.moves :=
  moves_eq_filter path ▸ climbs.filter

/-! ## Going back -/

/-- A path that does not end in a name leads to where something was. -/
theorem IsSound.isSome_of_nameless (sound : disk.IsSound)
    (climbs : disk.Climbs (disk.origin path) path.moves) (nameless : path.fileName? = none) :
    (disk.find? (Location.after (disk.origin path) path.moves)).isSome := by
  have standing : (disk.find? (disk.origin path)).isSome := by simp [sound.find?_origin]
  cases last : path.moves.getLast? with
  | none =>
      rw [List.getLast?_eq_none_iff.mp last]
      exact standing
  | some step =>
      cases step with
      | here => exact absurd (List.mem_of_getLast? last) here_notMem_moves
      | into name =>
          rw [fileName?_of_last_move last] at nameless
          cases nameless
      | up =>
          have moves := (List.dropLast_append_getLast? _ last).symm
          rw [moves] at climbs ⊢
          rw [Location.after_append]
          exact sound.isSome_dropLast
            (climbs.isSome_after sound.toIsTree standing List.mem_cons_self)

namespace Spares

theorem directory_back (spares : one.Spares path other) (present : (one.find? location).isSome)
    (found : other.find? location = some .directory) : one.find? location = some .directory := by
  obtain ⟨node, held⟩ := Option.isSome_iff_exists.mp present
  cases node with
  | directory => exact held
  | file content =>
      obtain ⟨contentToo, still⟩ := spares.isFile held
      rw [found] at still
      cases still

theorem enter_back (spares : one.Spares path other) {step : Step}
    (standing : (one.find? start).isSome) (entered : other.enter start step = .ok reached)
    (present : (one.find? reached).isSome) : one.enter start step = .ok reached := by
  have directory := spares.directory_back standing (enter_eq_ok entered)
  obtain rfl := enter_eq_after entered
  cases step with
  | here => simp [enter, directory, Location.after]
  | up => simp [enter, directory, Location.after]
  | into name =>
      obtain ⟨-, short, -, -⟩ := enter_into_eq_ok_iff.mp entered
      exact enter_into_eq_ok_iff.mpr ⟨directory, short, present, rfl⟩

/-- A walk that comes through afterwards came through before, if something was at its end and its
    steps up were taken from places that were there. -/
theorem walk_back (spares : one.Spares path other) (tree : one.IsTree)
    (climbs : one.Climbs start steps) (standing : (one.find? start).isSome)
    (walked : other.walk start steps = .ok reached) (present : (one.find? reached).isSome) :
    one.walk start steps = .ok reached := by
  induction steps generalizing start with
  | nil => exact walked
  | cons step rest ih =>
      obtain ⟨next, entered, further⟩ := bind_eq_ok_iff.mp walked
      have passed : (one.find? next).isSome := by
        by_cases climb : .up ∈ rest
        · obtain ⟨nextToo, enteredToo⟩ := climbs.exists_enter climb
          rw [enter_eq_after entered, ← enter_eq_after enteredToo]
          exact tree.isSome_of_enter enteredToo
        · obtain ⟨below, ends, -⟩ := exists_after next climb
          rw [walk_eq_after further, ends] at present
          exact tree.isSome_of_append present
      have before := spares.enter_back standing entered passed
      exact bind_eq_ok_iff.mpr ⟨next, before, ih (climbs.tail before) passed further⟩

/-- A path that leads afterwards to where something was, led there before. -/
theorem resolve_back (spares : one.Spares path other) (sound : one.IsSound) {file : Path}
    (climbs : one.Climbs (one.origin file) file.steps) (resolved : other.resolve file = .ok reached)
    (present : (one.find? reached).isSome) : one.resolve file = .ok reached := by
  obtain ⟨route, routed, walked⟩ := resolve_eq_ok_iff.mp resolved
  rw [spares.keeps.route] at routed
  refine resolve_eq_ok_iff.mpr ⟨route, routed, ?_⟩
  obtain ⟨-, rfl⟩ := route_eq_ok_iff.mp routed
  rw [walk_append] at walked ⊢
  obtain ⟨between, front, back⟩ := bind_eq_ok_iff.mp walked
  have last : .up ∉ if (file.text.toList.getLast? == some '/' && file.steps != []) = true then
      [Step.here] else [] := by
    split <;> simp
  have passed : (one.find? between).isSome := by
    obtain ⟨below, ends, -⟩ := exists_after between last
    rw [walk_eq_after back, ends] at present
    exact sound.isSome_of_append present
  have standing : (one.find? (one.origin file)).isSome := by simp [sound.find?_origin]
  have before := spares.walk_back sound.toIsTree climbs standing front passed
  have behind := spares.walk_back sound.toIsTree (.of_level last) passed back present
  exact bind_eq_ok_iff.mpr ⟨between, before, behind⟩

/-- Where a path leads only now, no directory was made for its temporary file. -/
theorem not_isMade (spares : one.Spares path other) (sound : one.IsSound)
    (climbs : one.Climbs (one.origin path) path.steps)
    (resolved : other.resolve path = .ok reached) :
    ¬IsMade (·.Above (temporaryFor path)) one other reached := by
  intro made
  obtain ⟨above, on, leads⟩ := made.reached
  have lost : ¬(one.find? reached).isSome := by simp [made.absent]
  have standing : (one.find? (one.origin path)).isSome := by simp [sound.find?_origin]
  have climbs := climbs_moves climbs
  have ends := walk_eq_after (walk_moves resolved)
  have endsAbove := walk_eq_after (walk_moves leads)
  rw [origin_of_above_temporary on (possible_of_resolve leads).filled] at endsAbove
  rw [spares.keeps.origin] at ends endsAbove
  obtain ⟨further, moves, nameless⟩ := exists_moves_of_above_temporary on
  by_cases climb : .up ∈ further
  · -- The path goes on to a step up, so the directory was there.
    rw [moves] at climbs
    exact lost (endsAbove ▸ climbs.isSome_after sound.toIsTree standing climb)
  · -- The path goes on downwards only and ends where it goes on from, so it does not go on.
    have again : Location.after reached further = reached := by
      rw [moves, Location.after_append, ← endsAbove] at ends
      exact ends.symm
    have nothing : further = [] := by
      obtain ⟨below, down, still⟩ := exists_after reached climb
      have here := still (List.append_right_eq_self.mp (down.symm.trans again))
      apply List.eq_nil_iff_forall_not_mem.mpr
      intro step member
      have stays : .here ∈ path.moves := by
        rw [moves, ← here step member]
        exact List.mem_append_right above.moves member
      exact here_notMem_moves stays
    exact lost (ends ▸ sound.isSome_of_nameless climbs (nameless nothing))

end Spares

/-! ## What is at a path -/

theorem node?_eq_some_iff {node : Node} :
    disk.node? path = some node ↔
      ∃ location, disk.resolve path = .ok location ∧ disk.find? location = some node := by
  unfold node?
  cases disk.resolve path <;> simp

namespace Spares

/-- What is at a path stays there while it fails to be replaced. -/
theorem node_kept (spares : one.Spares path other) {node : Node}
    (there : one.node? path = some node) : other.node? path = some node := by
  obtain ⟨location, resolved, found⟩ := node?_eq_some_iff.mp there
  have same : other.find? location = some node := by
    cases node with
    | directory => exact spares.keeps.directory location found
    | file content =>
        rcases spares.location location with same | made | temporary
        · exact same.trans found
        · exact absurd made.absent (by simp [found])
        · exact absurd temporary.reached
            (file_ne_temporary spares.keeps resolved temporary.isFile)
  exact node?_eq_some_iff.mpr ⟨location, spares.keeps.resolve resolved (by simp [same]), same⟩

/-- Where nothing is at a path, nothing is while it fails to be replaced. -/
theorem nothing_kept (spares : one.Spares path other) (sound : one.IsSound)
    (climbs : one.Climbs (one.origin path) path.steps) (nothing : one.node? path = none) :
    other.node? path = none := by
  apply Option.eq_none_iff_forall_ne_some.mpr
  intro node there
  obtain ⟨location, resolved, found⟩ := node?_eq_some_iff.mp there
  rcases spares.location location with same | made | temporary
  · have before := same.symm.trans found
    have leads := spares.resolve_back sound climbs resolved (by simp [before])
    rw [node?_eq_some_iff.mpr ⟨location, leads, before⟩] at nothing
    cases nothing
  · exact spares.not_isMade sound climbs resolved made
  · exact absurd temporary.reached
      (file_ne_temporary (.refl other) resolved temporary.isFile)

end Spares

/-! ## The two ends of a replacement -/

/-- A path has new content on a disk that is otherwise the old one: there is no temporary file, and
    new directories are above the path. -/
structure IsReplaced (one : Disk) (path : Path) (content : Bytes) (other : Disk) : Prop where
  read : other.read path = .ok content
  free : other.exists? (temporaryFor path) = false
  elsewhere : ∀ location, location ≠ one.locationOf path →
    location ≠ one.locationOf (temporaryFor path) →
    other.find? location = one.find? location ∨ IsMade (·.Above path) one other location

/-- What was at a path is there on a disk that is otherwise the old one, but for the temporary file
    and directories above it. Where nothing was, nothing is, if the path climbs from places that
    were there. -/
structure IsSpared (one : Disk) (path : Path) (other : Disk) : Prop where
  node : ∀ node, one.node? path = some node → other.node? path = some node
  nothing : one.IsSound → one.Climbs (one.origin path) path.steps → one.node? path = none →
    other.node? path = none
  elsewhere : ∀ location, location ≠ one.locationOf (temporaryFor path) →
    other.find? location = one.find? location ∨
      IsMade (·.Above (temporaryFor path)) one other location

theorem Names.locationOf {directory : Location} {name : String} {slash : Bool}
    (names : disk.Names path directory name slash) :
    disk.locationOf path = directory ++ [name] := by
  obtain ⟨route, routed, walked, -⟩ := site_eq_ok_iff.mp names.site
  obtain ⟨-, rfl⟩ := route_eq_ok_iff.mp routed
  have ends : directory = Location.after _ path.steps.dropLast := walk_eq_after walked
  rw [ends]
  exact Location.after_of_last names.last_steps

theorem isSpared_of_failed {failure : Failure}
    (failed : (disk.replace path content).failure = some failure) :
    disk.IsSpared path (disk.replace path content).disk := by
  have spares := spares_of_failed failed
  constructor
  case node =>
    intro node there
    exact spares.node_kept there
  case nothing => exact spares.nothing_kept
  case elsewhere =>
    intro location apart
    rcases spares.location location with same | made | temporary
    · exact .inl same
    · exact .inr made
    · rw [eq_locationOf temporary.reached, spares.keeps.locationOf] at apart
      exact absurd rfl apart

theorem isReplaced_of_done (done : (disk.replace path content).failure = none) :
    disk.IsReplaced path content (disk.replace path content).disk := by
  have read := read_replace_of_done done
  have keepsAll := keeps_replace disk path content
  obtain ⟨prepared, makes, replacement⟩ := replacement_replace disk path content
  have keeps := replacement.keeps
  generalize disk.replace path content = outcome at done read keepsAll replacement keeps ⊢
  cases replacement with
  | stopped | written => cases done
  | @done place directory temporaryName name replaced temporary spares names sparesToo
      workingDirectory find? =>
      have temporaryKept := temporary.kept keeps
      constructor
      case read => exact read
      case free =>
        have gone : replaced.find? (place ++ [temporaryName]) = none := by
          rw [find?, if_neg (temporary_ne names temporaryKept).symm, if_pos rfl]
        rw [exists?, temporaryKept.resolve_of_absent gone]
        rfl
      case elsewhere =>
        intro location apart apartToo
        rw [← keepsAll.locationOf, names.locationOf] at apart
        rw [← keepsAll.locationOf, temporaryKept.locationOf] at apartToo
        have same : replaced.find? location = prepared.find? location := by
          rw [find?, if_neg apart, if_neg apartToo]
        rcases makes.location location with sameToo | new
        · exact .inl (same.trans sameToo)
        · obtain ⟨absent, isDirectory, above, on, leads⟩ := new.kept keeps
          have onPath := above_of_above_temporary (fileName?_of_last_into names.last_steps) on
          exact .inr ⟨absent, isDirectory, above, onPath, leads⟩

/-- Replacing a file changes nothing but what it is for. If it is done, the path has the content and
    the temporary file is gone; if it fails, what is at the path is as it was. Either way nothing
    else is changed but the temporary file, and missing directories are made. -/
theorem replace_changes (disk : Disk) (path : Path) (content : Bytes) :
    ((disk.replace path content).failure = none →
      disk.IsReplaced path content (disk.replace path content).disk) ∧
    ∀ failure, (disk.replace path content).failure = some failure →
      disk.IsSpared path (disk.replace path content).disk := by
  constructor
  · exact isReplaced_of_done
  · intro failure failed
    exact isSpared_of_failed failed

/-- A dictionary is put into a directory that is made for it, and cannot be put at a path that asks
    for a directory where a file is. -/
theorem replace_changes_home :
    let disk : Disk :=
      { nodes := [(["home"], .directory), (["home", "words.json"], .file [0x5B, 0x5D])]
        workingDirectory := ["home"] }
    let done := disk.replace ⟨"lists/words.json"⟩ [0x5B, 0x5D]
    let failed := disk.replace ⟨"words.json/"⟩ [0x5B, 0x5D]
    disk.IsSound ∧ done.failure = none ∧
      disk.IsReplaced ⟨"lists/words.json"⟩ [0x5B, 0x5D] done.disk ∧
      failed.failure = some (.write ⟨"words.json/"⟩ .notDirectory) ∧
      disk.IsSpared ⟨"words.json/"⟩ failed.disk ∧ failed.disk.node? ⟨"words.json/"⟩ = none := by
  intro disk done failed
  have sound : disk.IsSound := ⟨.of_nodes (by decide +kernel), by decide +kernel⟩
  have climbs : disk.Climbs ["home"] (⟨"words.json/"⟩ : Path).steps := .of_level (by decide +kernel)
  have placed : done.failure = none := by decide +kernel
  have refused : failed.failure = some (.write ⟨"words.json/"⟩ .notDirectory) := by decide +kernel
  have spared := (replace_changes disk ⟨"words.json/"⟩ [0x5B, 0x5D]).2 _ refused
  exact ⟨sound, placed, (replace_changes disk _ _).1 placed, refused, spared,
    spared.nothing sound climbs (by decide +kernel)⟩

/-- A replacement that fails can let a path lead somewhere that led nowhere: the directory that the
    path goes up from is made. -/
theorem replace_makes_way :
    ¬∀ (disk : Disk) (path : Path) (content : Bytes) (failure : Failure), disk.IsSound →
      (disk.replace path content).failure = some failure →
        (disk.replace path content).disk.node? path = disk.node? path := by
  intro kept
  let disk : Disk := { nodes := [], workingDirectory := [] }
  have sound : disk.IsSound := ⟨.of_nodes (by decide), by decide⟩
  have failed : (disk.replace ⟨"new/sub/.."⟩ []).failure =
      some (.write ⟨"new/sub/.."⟩ .isDirectory) := by decide +kernel
  have before : disk.node? ⟨"new/sub/.."⟩ = none := by decide +kernel
  have after : (disk.replace ⟨"new/sub/.."⟩ []).disk.node? ⟨"new/sub/.."⟩ = some .directory := by
    decide +kernel
  have same := kept disk _ _ _ sound failed
  rw [before, after] at same
  cases same

end Phrasebook.Disk
