import Phrasebook.Disk.Replace
import Phrasebook.Proofs.Disk.Walk
import Phrasebook.Proofs.Text.Lines
import Phrasebook.Settings.File

/-! # Where paths end

The last step of a path tells the name of the place that it names. A path that is joined from two
takes the steps of the one and then those of the other, so the temporary file of a path, whose name
is made up, is never the file at the path and never the settings file.
-/

namespace Phrasebook.Disk

/-! ## Steps of joined paths -/

/-- The steps that a text asks for. -/
def stepsOf (text : List Char) : List Step :=
  (text.splitOn '/').filterMap Step.ofPiece?

theorem stepsOf_append_slash (before after : List Char) :
    stepsOf (before ++ '/' :: after) = stepsOf before ++ stepsOf after := by
  rw [stepsOf, List.splitOn_append_cons_self, List.filterMap_append]
  rfl

theorem steps_join {base below : Path} (relative : below.isAbsolute = false) :
    (base.join below).steps = base.steps ++ below.steps := by
  unfold Path.join
  rw [relative, if_neg Bool.false_ne_true]
  by_cases bare : base.text = ""
  · have none : base.steps = [] := by
      rw [show base = ⟨""⟩ from congrArg Path.mk bare]
      rfl
    rw [if_pos (.inl bare), none, bare, String.empty_append]
    rfl
  · by_cases slash : base.text.toList.getLast? = some '/'
    · have text : base.text.toList = base.text.toList.dropLast ++ '/' :: [] :=
        (List.dropLast_append_getLast? _ slash).symm
      have steps : base.steps = stepsOf base.text.toList.dropLast := by
        change stepsOf base.text.toList = _
        rw [text, stepsOf_append_slash, List.dropLast_concat]
        exact List.append_nil _
      rw [if_pos (.inr slash), steps]
      change stepsOf (base.text ++ below.text).toList = _
      rw [String.toList_append, text, List.append_assoc, List.cons_append, stepsOf_append_slash,
        List.dropLast_concat]
      rfl
    · rw [if_neg (by simp [bare, slash])]
      change stepsOf (base.text ++ "/" ++ below.text).toList = _
      rw [String.toList_append, String.toList_append, List.append_assoc]
      exact stepsOf_append_slash _ _

/-- A text that can be a name and asks for one step. -/
structure IsName (name : String) : Prop where
  unbroken : '/' ∉ name.toList
  proper : name.toList ∉ [[], ['.'], ['.', '.']]

namespace IsName

variable {name : String}

theorem steps (named : IsName name) : (⟨name⟩ : Path).steps = [.into name] := by
  change stepsOf name.toList = _
  rw [stepsOf, List.splitOn_eq_singleton named.unbroken]
  have proper := named.proper
  simp only [List.mem_cons, List.not_mem_nil, or_false, not_or] at proper
  simp [Step.ofPiece?, proper]

theorem isRelative (named : IsName name) : (⟨name⟩ : Path).isAbsolute = false := by
  cases first : name.toList.head? with
  | none => simp [Path.isAbsolute, first]
  | some c =>
      have member := List.mem_of_head? first
      have other : c ≠ '/' := fun slash => named.unbroken (slash ▸ member)
      simp [Path.isAbsolute, first, other]

theorem steps_join (named : IsName name) (base : Path) :
    (base.join ⟨name⟩).steps = base.steps ++ [.into name] := by
  rw [Disk.steps_join named.isRelative, named.steps]

theorem last_steps_join (named : IsName name) (base : Path) :
    (base.join ⟨name⟩).steps.getLast? = some (.into name) := by
  rw [named.steps_join, List.getLast?_concat]

end IsName

/-! ## File names -/

/-- The component that a step comes from; single dots are none. -/
def Step.component? : Step → Option Component
  | .here => none
  | .up => some .parent
  | .into name => some (.name name.toList)

theorem component?_eq (piece : List Char) :
    Path.component? piece = (Step.ofPiece? piece).bind Step.component? := by
  unfold Path.component? Step.ofPiece?
  by_cases empty : piece = []
  · simp [empty]
  · by_cases here : piece = ['.']
    · simp [here, Step.component?]
    · by_cases up : piece = ['.', '.']
      · simp [up, Step.component?]
      · simp [empty, here, up, Step.component?]

theorem filterMap_component? (path : Path) :
    path.pieces.filterMap Path.component? = path.steps.filterMap Step.component? := by
  rw [Path.steps, List.filterMap_filterMap]
  exact List.filterMap_congr fun piece _ => component?_eq piece

/-- The component that a path opens with, if it is not one of its pieces. -/
def Path.opening (path : Path) : List Component :=
  if path.isAbsolute then [.root] else if path.pieces.head? = some ['.'] then [.here] else []

theorem components_eq (path : Path) :
    path.components = path.opening ++ path.pieces.filterMap Path.component? := by
  unfold Path.components Path.opening
  cases pieces : path.pieces with
  | nil => exact absurd pieces (List.splitOn_ne_nil _ _)
  | cons first rest =>
      rw [List.filterMap_cons]
      by_cases absolute : path.isAbsolute = true
      · have opening : first = [] := by
          unfold Path.isAbsolute at absolute
          unfold Path.pieces at pieces
          cases text : path.text.toList with
          | nil => simp [text] at absolute
          | cons c tail =>
              simp only [text, List.head?_cons, beq_iff_eq, Option.some.injEq] at absolute
              simp only [text, List.splitOn_cons_eq_if_modifyHead, absolute, beq_self_eq_true,
                if_true, List.cons.injEq] at pieces
              exact pieces.1.symm
        simp [absolute, opening, Path.component?]
      · by_cases here : first = ['.']
        · simp [absolute, here, Path.component?]
        · cases counted : Path.component? first <;> simp [absolute, here, counted]

theorem getLast?_components {path : Path} {component : Component}
    (last : (path.pieces.filterMap Path.component?).getLast? = some component) :
    path.components.getLast? = some component := by
  rw [components_eq, List.getLast?_append, last, Option.some_or]

theorem getLast?_components_of_step {path : Path} {step : Step} {component : Component}
    (last : path.steps.getLast? = some step) (counts : step.component? = some component) :
    path.components.getLast? = some component := by
  apply getLast?_components
  rw [filterMap_component?, ← List.dropLast_append_getLast? _ last, List.filterMap_append]
  simp [counts]

theorem fileName?_of_last_into {path : Path} {name : String}
    (last : path.steps.getLast? = some (.into name)) : path.fileName? = some name := by
  simp [Path.fileName?, getLast?_components_of_step last rfl]

theorem fileName?_of_last_up {path : Path} (last : path.steps.getLast? = some .up) :
    path.fileName? = none := by
  simp [Path.fileName?, getLast?_components_of_step last rfl]

theorem last_component_of_fileName? {path : Path} {name : String}
    (named : path.fileName? = some name) :
    path.components.getLast? = some (.name name.toList) := by
  unfold Path.fileName? at named
  split at named
  · next text last =>
    cases named
    rw [last, String.toList_ofList]
  · cases named

theorem exists_piece_of_fileName? {path : Path} {name : String}
    (named : path.fileName? = some name) :
    name.toList ∈ path.pieces ∧ Step.ofPiece? name.toList = some (.into name) := by
  have member := List.mem_of_getLast? (last_component_of_fileName? named)
  have fromPiece : ∃ piece ∈ path.pieces, Path.component? piece = some (.name name.toList) := by
    unfold Path.components at member
    cases pieces : path.pieces with
    | nil => simp [pieces] at member
    | cons first rest =>
        simp only [pieces, List.mem_append, List.mem_filterMap] at member
        rcases member with opening | ⟨piece, later, component⟩
        · split at opening
          · simp at opening
          · split at opening
            · simp at opening
            · exact ⟨first, List.mem_cons_self, by simpa using opening⟩
        · exact ⟨piece, List.mem_cons_of_mem _ later, component⟩
  obtain ⟨piece, within, component⟩ := fromPiece
  unfold Path.component? at component
  split at component
  · cases component
  · split at component
    · cases component
    · next idle up =>
      simp only [not_or] at idle
      simp only [Option.some.injEq, Component.name.injEq] at component
      subst component
      exact ⟨within, by simp [Step.ofPiece?, idle, up]⟩

theorem unbroken_of_fileName? {path : Path} {name : String}
    (named : path.fileName? = some name) : '/' ∉ name.toList :=
  Text.not_mem_of_mem_splitOn (exists_piece_of_fileName? named).1

theorem fileName?_of_steps_eq_nil {path : Path} (idle : path.steps = []) :
    path.fileName? = none := by
  refine Option.eq_none_iff_forall_ne_some.mpr fun name named => ?_
  obtain ⟨within, step⟩ := exists_piece_of_fileName? named
  have asked : .into name ∈ path.steps := List.mem_filterMap.mpr ⟨name.toList, within, step⟩
  simp [idle] at asked

/-! ## Temporary files -/

theorem isName_temporary {name : String} (unbroken : '/' ∉ name.toList) :
    IsName (name ++ ".tmp") := by
  refine ⟨by simp [unbroken], ?_⟩
  rw [String.toList_append]
  intro member
  have short : ∀ text ∈ [[], ['.'], ['.', '.']], text.length < 4 := by decide
  have long := short _ member
  rw [List.length_append] at long
  exact absurd long (by simp)

/-- The temporary file of a path lies beside the file when the path ends in a name, and otherwise
    in the directory that the path leads to. -/
theorem temporaryFor_eq (path : Path) :
    ∃ base : Path, (path.fileName? = none → base = path) ∧
      temporaryFor path = base.join ⟨path.fileName?.getD "dictionary" ++ ".tmp"⟩ := by
  unfold temporaryFor Path.withFileName
  cases named : path.fileName? with
  | none => exact ⟨path, fun _ => rfl, rfl⟩
  | some name =>
      have last := last_component_of_fileName? named
      have parented : ∃ parent, path.parent? = some parent := by
        unfold Path.parent?
        rw [last]
        exact ⟨_, rfl⟩
      obtain ⟨parent, above⟩ := parented
      exact ⟨parent, by simp, by rw [above]⟩

theorem isName_temporaryFor (path : Path) :
    IsName (path.fileName?.getD "dictionary" ++ ".tmp") := by
  apply isName_temporary
  cases named : path.fileName? with
  | none => decide
  | some name => exact unbroken_of_fileName? named

theorem last_steps_temporaryFor (path : Path) :
    (temporaryFor path).steps.getLast? =
      some (.into (path.fileName?.getD "dictionary" ++ ".tmp")) := by
  obtain ⟨base, -, joined⟩ := temporaryFor_eq path
  rw [joined]
  exact (isName_temporaryFor path).last_steps_join base

/-- Of a location, the last name is one only. -/
theorem last_name_eq {directory directoryToo : Location} {name nameToo : String}
    (same : directory ++ [name] = directoryToo ++ [nameToo]) : name = nameToo :=
  List.singleton_inj.mp (List.append_inj' same rfl).2

theorem ne_self_temporary (name : String) : name ≠ name ++ ".tmp" := by
  intro same
  have lengths := congrArg String.length same
  simp at lengths

theorem ne_append_temporary {name other : String} (ending : name.toList.getLast? ≠ some 'p') :
    name ≠ other ++ ".tmp" := by
  rintro rfl
  simp at ending

theorem isName_settings : IsName "settings.json" :=
  ⟨by decide, by decide⟩

theorem last_steps_settings (directory : Path) :
    (Settings.path directory).steps.getLast? = some (.into "settings.json") :=
  isName_settings.last_steps_join directory

end Phrasebook.Disk
