import Phrasebook.Proofs.Disk.Replacing

/-! # Paths above a path

The parent of a path is cut out of its text; of its components it is all but the last. So a path
above another has fewer components, and the other's begin with them. The temporary file of a path
that ends in a name has the path's own parent.
-/

namespace Phrasebook.Disk

/-! ## Components of a text -/

/-- The components of the path with a text. -/
def componentsOf (text : List Char) : List Component :=
  (⟨String.ofList text⟩ : Path).components

theorem componentsOf_toList (path : Path) : componentsOf path.text.toList = path.components := by
  rw [componentsOf, String.ofList_toList]

theorem componentsOf_eq (text : List Char) :
    componentsOf text =
      (if text.head? = some '/' then [.root]
        else if (text.splitOn '/').head? = some ['.'] then [.here] else []) ++
        (text.splitOn '/').filterMap Path.component? := by
  rw [componentsOf, components_eq, Path.opening, Path.isAbsolute, Path.pieces,
    String.toList_ofList]
  simp only [beq_iff_eq]

/-- Behind a slash, every piece is a component of its own or none. -/
theorem componentsOf_append_slash (before after : List Char) :
    componentsOf (before ++ '/' :: after) =
      componentsOf (before ++ ['/']) ++ (after.splitOn '/').filterMap Path.component? := by
  have same : (before ++ '/' :: after).head? = (before ++ ['/']).head? := by
    cases before <;> rfl
  have idle : (([] : List Char).splitOn '/').filterMap Path.component? = [] := rfl
  rw [componentsOf_eq, componentsOf_eq, same, List.splitOn_append_cons_self,
    List.splitOn_append_cons_self, List.head?_append_of_ne_nil _ (List.splitOn_ne_nil _ _),
    List.head?_append_of_ne_nil _ (List.splitOn_ne_nil _ _), List.filterMap_append,
    List.filterMap_append, idle, List.append_nil, List.append_assoc]

theorem componentsOf_append_last {before : List Char} (filled : before ≠ []) :
    componentsOf (before ++ ['/']) = componentsOf before := by
  have idle : (([] : List Char).splitOn '/').filterMap Path.component? = [] := rfl
  rw [componentsOf_eq, componentsOf_eq, List.splitOn_append_cons_self,
    List.head?_append_of_ne_nil _ filled, List.head?_append_of_ne_nil _ (List.splitOn_ne_nil _ _),
    List.filterMap_append, idle, List.append_nil]

theorem componentsOf_of_unbroken {piece : List Char} (unbroken : '/' ∉ piece) :
    componentsOf piece = if piece = ['.'] then [.here] else (Path.component? piece).toList := by
  have relative : piece.head? ≠ some '/' := fun slash => unbroken (List.mem_of_head? slash)
  rw [componentsOf_eq, if_neg relative, List.splitOn_eq_singleton unbroken, List.head?_cons]
  by_cases here : piece = ['.']
  · simp [here, Path.component?]
  · cases counted : Path.component? piece <;> simp [here, counted]

/-! ## Idle ends -/

theorem componentsOf_dropIdleEnd (text : List Char) :
    componentsOf (Path.dropIdleEnd text).reverse = componentsOf text.reverse := by
  fun_induction Path.dropIdleEnd text with
  | case1 => rfl
  | case2 rest more ih =>
      rw [ih, List.reverse_cons, componentsOf_append_last (by simpa using more)]
  | case3 rest ih =>
      have idle : (['.'].splitOn '/').filterMap Path.component? = [] := by decide
      have whole := componentsOf_append_slash rest.reverse ['.']
      rw [idle, List.append_nil] at whole
      rw [ih, List.reverse_cons, List.reverse_cons, List.reverse_cons, List.append_assoc]
      exact whole.symm
  | case4 => rfl

/-- Nothing at the end of a reversed text counts for nothing. -/
structure IsSettled (text : List Char) : Prop where
  slash : ∀ rest, text = '/' :: rest → rest = []
  dot : ∀ rest, text ≠ '.' :: '/' :: rest

theorem isSettled_dropIdleEnd (text : List Char) : IsSettled (Path.dropIdleEnd text) := by
  fun_induction Path.dropIdleEnd text with
  | case1 => exact ⟨fun rest same => (List.cons.inj same).2.symm, nofun⟩
  | case2 rest more ih => exact ih
  | case3 rest ih => exact ih
  | case4 text root slash dot =>
      exact ⟨fun rest same => absurd same (slash rest), dot⟩

theorem IsSettled.dropIdleEnd_eq {text : List Char} (settled : IsSettled text) :
    Path.dropIdleEnd text = text := by
  fun_induction Path.dropIdleEnd text with
  | case1 => rfl
  | case2 rest more ih => exact absurd (settled.slash rest rfl) (by simpa using more)
  | case3 rest ih => exact absurd rfl (settled.dot rest)
  | case4 => rfl

/-! ## Parents -/

theorem exists_component {piece : List Char} (counts : piece ≠ [] ∧ piece ≠ ['.']) :
    ∃ component, Path.component? piece = some component := by
  unfold Path.component?
  rw [if_neg (not_or.mpr counts)]
  split <;> exact ⟨_, rfl⟩

/-- What stands in front of the last piece of a settled text, of more than a slash, has all its
    components but the last. -/
theorem componentsOf_dropWhile {text : List Char} (settled : IsSettled text)
    (more : text ≠ ['/']) :
    componentsOf (text.dropWhile (· != '/')).reverse = (componentsOf text.reverse).dropLast := by
  have unbroken : '/' ∉ (text.takeWhile (· != '/')).reverse := by
    intro slash
    have passed := List.all_eq_true.mp List.all_takeWhile '/' (List.mem_reverse.mp slash)
    simp at passed
  have whole := List.takeWhile_append_dropWhile (p := (· != '/')) (l := text)
  have stops := List.head?_dropWhile_not (· != '/') text
  generalize text.takeWhile (· != '/') = last at unbroken whole
  generalize text.dropWhile (· != '/') = front at whole stops ⊢
  subst whole
  cases front with
  | nil =>
      rw [List.append_nil, componentsOf_of_unbroken unbroken]
      split
      · rfl
      · cases Path.component? last.reverse <;> rfl
  | cons c rest =>
      have slash : c = '/' := by simpa using stops
      subst slash
      have counts : last.reverse ≠ [] ∧ last.reverse ≠ ['.'] := by
        constructor
        · intro empty
          have bare := List.reverse_eq_nil_iff.mp empty
          subst bare
          exact more (congrArg ('/' :: ·) (settled.slash rest rfl))
        · intro dot
          have bare := List.reverse_eq_iff.mp dot
          subst bare
          exact settled.dot rest rfl
      obtain ⟨component, counted⟩ := exists_component counts
      rw [List.reverse_cons, List.reverse_append, List.reverse_cons, List.append_assoc]
      change _ = (componentsOf (rest.reverse ++ '/' :: last.reverse)).dropLast
      rw [componentsOf_append_slash rest.reverse last.reverse,
        List.splitOn_eq_singleton unbroken]
      simp [counted]

/-- A path with a parent is neither empty nor the root. -/
theorem parent?_eq_some_iff {path parent : Path} :
    path.parent? = some parent ↔
      path.components ≠ [] ∧ path.components.getLast? ≠ some .root ∧
        parent = ⟨String.ofList (Path.dropIdleEnd
          ((Path.dropIdleEnd path.text.toList.reverse).dropWhile (· != '/'))).reverse⟩ := by
  unfold Path.parent?
  cases last : path.components.getLast? with
  | none => simp [List.getLast?_eq_none_iff.mp last]
  | some component =>
      have filled : path.components ≠ [] := by
        intro empty
        simp [empty] at last
      cases component <;> simp [filled, eq_comm]

theorem isSettled_of_parent? {path parent : Path} (up : path.parent? = some parent) :
    IsSettled parent.text.toList.reverse := by
  obtain ⟨-, -, rfl⟩ := parent?_eq_some_iff.mp up
  rw [String.toList_ofList, List.reverse_reverse]
  exact isSettled_dropIdleEnd _

/-- Of the components of a path, its parent has all but the last. -/
theorem components_of_parent? {path parent : Path} (up : path.parent? = some parent) :
    parent.components = path.components.dropLast := by
  obtain ⟨-, below, rfl⟩ := parent?_eq_some_iff.mp up
  have settled := isSettled_dropIdleEnd path.text.toList.reverse
  have same := componentsOf_dropIdleEnd path.text.toList.reverse
  rw [List.reverse_reverse, componentsOf_toList] at same
  have more : Path.dropIdleEnd path.text.toList.reverse ≠ ['/'] := by
    intro root
    rw [root] at same
    exact below (same ▸ rfl)
  change componentsOf (Path.dropIdleEnd _).reverse = _
  rw [componentsOf_dropIdleEnd, componentsOf_dropWhile settled more, same]

theorem Path.Above.exists_components {above path : Path} (isAbove : above.Above path) :
    ∃ further, further ≠ [] ∧ path.components = above.components ++ further := by
  have split {below parent : Path} (up : below.parent? = some parent) :
      ∃ component, below.components = parent.components ++ [component] := by
    obtain ⟨filled, -⟩ := parent?_eq_some_iff.mp up
    rw [components_of_parent? up]
    exact ⟨_, (List.dropLast_append_getLast filled).symm⟩
  induction isAbove with
  | parent up =>
      obtain ⟨component, whole⟩ := split up
      exact ⟨[component], by simp, whole⟩
  | further up _ ih =>
      obtain ⟨further, -, front⟩ := ih
      obtain ⟨component, whole⟩ := split up
      exact ⟨further ++ [component], by simp, by rw [whole, front, List.append_assoc]⟩

/-! ## Names in a directory -/

theorem dropIdleEnd_slash {rest : List Char} (more : rest ≠ []) :
    Path.dropIdleEnd ('/' :: rest) = Path.dropIdleEnd rest := by
  rw [Path.dropIdleEnd]
  exact more

/-- Between a path and a name that is joined to it, only a slash may be put. -/
theorem exists_join {name : String} (named : IsName name) (base : Path) :
    ∃ front : List Char, (base.join ⟨name⟩).text.toList = front.reverse ++ name.toList ∧
      (front = [] ∨ front.head? = some '/') ∧
      Path.dropIdleEnd front = Path.dropIdleEnd base.text.toList.reverse := by
  unfold Path.join
  rw [named.isRelative, if_neg Bool.false_ne_true]
  by_cases bare : base.text = ""
  · rw [if_pos (.inl bare), bare]
    exact ⟨[], by simp, .inl rfl, rfl⟩
  · by_cases slash : base.text.toList.getLast? = some '/'
    · rw [if_pos (.inr slash)]
      exact ⟨base.text.toList.reverse, by simp, .inr (by simpa using slash), rfl⟩
    · rw [if_neg (not_or.mpr ⟨bare, slash⟩)]
      exact ⟨'/' :: base.text.toList.reverse, by simp, .inr rfl,
        dropIdleEnd_slash (by simpa using bare)⟩

namespace IsName

variable {name : String} {base : Path}

theorem component? (named : IsName name) :
    Path.component? name.toList = some (.name name.toList) := by
  have proper := named.proper
  simp only [List.mem_cons, List.not_mem_nil, or_false, not_or] at proper
  simp [Path.component?, proper]

theorem components_join (named : IsName name) (base : Path) :
    (base.join ⟨name⟩).components = base.components ++ [.name name.toList] := by
  obtain ⟨front, text, opens, same⟩ := exists_join named base
  have before := congrArg (componentsOf ·.reverse) same
  simp only [componentsOf_dropIdleEnd, List.reverse_reverse, componentsOf_toList] at before
  rw [← componentsOf_toList, text, ← before]
  rcases opens with rfl | slash
  · have proper : name.toList ≠ ['.'] := fun dot => named.proper (by simp [dot])
    change componentsOf name.toList = [.name name.toList]
    rw [componentsOf_of_unbroken named.unbroken, if_neg proper, named.component?]
    rfl
  · obtain ⟨rest, rfl⟩ := List.head?_eq_some_iff.mp slash
    rw [List.reverse_cons, List.append_assoc]
    change componentsOf (rest.reverse ++ '/' :: name.toList) = _
    rw [componentsOf_append_slash, List.splitOn_eq_singleton named.unbroken]
    simp [named.component?]

theorem isSettled (named : IsName name) (front : List Char) :
    IsSettled (name.toList.reverse ++ front) := by
  have unbroken : '/' ∉ name.toList.reverse := by simpa using named.unbroken
  have proper := named.proper
  cases text : name.toList.reverse with
  | nil => exact absurd (List.reverse_eq_nil_iff.mp text) fun empty => proper (by simp [empty])
  | cons last before =>
      rw [text] at unbroken
      constructor
      · rintro rest same
        cases same
        exact absurd List.mem_cons_self unbroken
      · rintro rest same
        cases before with
        | nil =>
            cases same
            exact proper (by simp [List.reverse_eq_iff.mp text])
        | cons c before =>
            cases same
            simp at unbroken

theorem parent?_join (named : IsName name) (settled : IsSettled base.text.toList.reverse) :
    (base.join ⟨name⟩).parent? = some base := by
  obtain ⟨front, text, opens, same⟩ := exists_join named base
  have components := named.components_join base
  refine parent?_eq_some_iff.mpr ⟨by simp [components], by simp [components], ?_⟩
  have passed : ∀ c ∈ name.toList.reverse, (c != '/') = true := by
    intro c member
    exact bne_iff_ne.mpr fun slash => named.unbroken (slash ▸ List.mem_reverse.mp member)
  have stops : front.dropWhile (· != '/') = front := by
    rcases opens with rfl | slash
    · rfl
    · obtain ⟨rest, rfl⟩ := List.head?_eq_some_iff.mp slash
      rfl
  rw [text, List.reverse_append, List.reverse_reverse, (named.isSettled front).dropIdleEnd_eq,
    List.dropWhile_append_of_pos passed, stops, same, settled.dropIdleEnd_eq, List.reverse_reverse,
    String.ofList_toList]

end IsName

/-! ## Temporary files -/

variable {path above : Path}

/-- The temporary file of a path that ends in a name is in the directory of the path. -/
theorem parent?_temporaryFor {name : String} (named : path.fileName? = some name) :
    (temporaryFor path).parent? = path.parent? := by
  have last := last_component_of_fileName? named
  have filled : path.components ≠ [] := by
    intro empty
    simp [empty] at last
  obtain ⟨parent, up⟩ : ∃ parent, path.parent? = some parent :=
    ⟨_, parent?_eq_some_iff.mpr ⟨filled, by simp [last], rfl⟩⟩
  have beside : temporaryFor path = parent.join ⟨name ++ ".tmp"⟩ := by
    rw [temporaryFor, Path.withFileName, named, up]
    rfl
  rw [beside, up]
  exact (isName_temporary (unbroken_of_fileName? named)).parent?_join (isSettled_of_parent? up)

theorem above_of_above_temporary {name : String} (named : path.fileName? = some name)
    (isAbove : above.Above (temporaryFor path)) : above.Above path := by
  cases isAbove with
  | parent up => exact .parent (parent?_temporaryFor named ▸ up)
  | further up further => exact .further (parent?_temporaryFor named ▸ up) further

/-- A path above the temporary file of another begins it, and not all of it if it ends in a
    name. -/
theorem exists_components_of_above_temporary (isAbove : above.Above (temporaryFor path)) :
    ∃ further, path.components = above.components ++ further ∧
      (further = [] → path.fileName? = none) := by
  cases named : path.fileName? with
  | some name =>
      obtain ⟨further, filled, whole⟩ := (above_of_above_temporary named isAbove).exists_components
      exact ⟨further, whole, fun empty => absurd empty filled⟩
  | none =>
      obtain ⟨further, filled, whole⟩ := isAbove.exists_components
      obtain ⟨base, onto, joined⟩ := temporaryFor_eq path
      rw [joined, (isName_temporaryFor path).components_join, onto named] at whole
      rw [← List.dropLast_append_getLast filled, ← List.append_assoc] at whole
      exact ⟨further.dropLast, (List.append_inj' whole rfl).1, fun _ => rfl⟩

/-! ## Moves -/

/-- The step that a component asks for, if it leads elsewhere. -/
def Component.step? : Component → Option Step
  | .root | .here => none
  | .parent => some .up
  | .name text => some (.into (String.ofList text))

/-- The steps of a path that lead elsewhere. -/
def Path.moves (path : Path) : List Step :=
  path.components.filterMap Component.step?

theorem step?_component? (step : Step) :
    step.component?.bind Component.step? = Option.guard (· != .here) step := by
  cases step <;> simp [Step.component?, Component.step?, Option.guard]

theorem moves_eq_filterMap (path : Path) :
    path.moves = (path.pieces.filterMap Path.component?).filterMap Component.step? := by
  have opening : path.opening.filterMap Component.step? = [] := by
    unfold Path.opening
    split
    · rfl
    · split <;> rfl
  rw [Path.moves, components_eq, List.filterMap_append, opening, List.nil_append]

theorem moves_eq_filter (path : Path) : path.moves = path.steps.filter (· != .here) := by
  rw [moves_eq_filterMap, filterMap_component?, List.filterMap_filterMap]
  simp only [step?_component?]
  exact congrFun List.filterMap_eq_filter path.steps

theorem here_notMem_moves : .here ∉ path.moves := by
  simp [moves_eq_filter]

theorem component?_cases {piece : List Char} {component : Component}
    (counts : Path.component? piece = some component) :
    component = .parent ∨ component = .name piece := by
  unfold Path.component? at counts
  split at counts
  · cases counts
  · split at counts <;> cases counts
    · exact .inl rfl
    · exact .inr rfl

theorem fileName?_of_last_move {name : String} (last : path.moves.getLast? = some (.into name)) :
    path.fileName? = some name := by
  rw [moves_eq_filterMap] at last
  rcases List.eq_nil_or_concat (path.pieces.filterMap Path.component?) with
    none | ⟨front, component, some⟩
  · simp [none] at last
  · have member : component ∈ path.pieces.filterMap Path.component? := by simp [some]
    obtain ⟨piece, -, counts⟩ := List.mem_filterMap.mp member
    rw [some, List.concat_eq_append, List.filterMap_append] at last
    rcases component?_cases counts with rfl | rfl
    · simp [Component.step?] at last
    · have same : String.ofList piece = name := by simpa [Component.step?] using last
      have ends : path.components.getLast? = Option.some (.name piece) :=
        getLast?_components (by simp [some])
      rw [Path.fileName?, ends, ← same]

/-- A path above the temporary file of another leads on the way of the other, and not all of it if
    the other ends in a name. -/
theorem exists_moves_of_above_temporary (isAbove : above.Above (temporaryFor path)) :
    ∃ further, path.moves = above.moves ++ further ∧
      (further = [] → path.fileName? = none) := by
  obtain ⟨further, whole, nameless⟩ := exists_components_of_above_temporary isAbove
  have moves : path.moves = above.moves ++ further.filterMap Component.step? := by
    rw [Path.moves, whole, List.filterMap_append]
    rfl
  refine ⟨_, moves, ?_⟩
  intro idle
  rcases List.eq_nil_or_concat further with rfl | ⟨front, component, rfl⟩
  · exact nameless rfl
  · refine Option.eq_none_iff_forall_ne_some.mpr fun name named => ?_
    have last := last_component_of_fileName? named
    rw [whole, List.concat_eq_append, ← List.append_assoc, List.getLast?_concat] at last
    cases last
    simp [Component.step?] at idle

/-! ## Where paths start -/

theorem isAbsolute_iff (path : Path) :
    path.isAbsolute = true ↔ path.components.head? = some .root := by
  rw [components_eq, Path.opening]
  by_cases absolute : path.isAbsolute = true
  · simp [absolute]
  · rw [if_neg absolute]
    refine iff_of_false absolute fun root => ?_
    split at root
    · cases root
    · obtain ⟨piece, -, counts⟩ := List.mem_filterMap.mp (List.mem_of_head? root)
      rcases component?_cases counts with same | same <;> cases same

theorem components_ne_nil {path : Path} (filled : path.text.toList ≠ []) :
    path.components ≠ [] := by
  intro empty
  rw [components_eq, List.append_eq_nil_iff] at empty
  obtain ⟨c, rest, text⟩ := List.exists_cons_of_ne_nil filled
  have relative : ¬path.isAbsolute = true := fun absolute => by
    simp [Path.opening, absolute] at empty
  have plain : (c == '/') = false := by simpa [Path.isAbsolute, text] using relative
  obtain ⟨part, more, pieces⟩ : ∃ part more, path.pieces = (c :: part) :: more := by
    obtain ⟨part, more, pieces⟩ := List.exists_cons_of_ne_nil (List.splitOn_ne_nil '/' rest)
    refine ⟨part, more, ?_⟩
    simp [Path.pieces, text, List.splitOn_cons_eq_if_modifyHead, plain, pieces]
  obtain ⟨opening, counted⟩ := empty
  have here : c :: part ≠ ['.'] := fun here => by
    simp [Path.opening, relative, pieces, here] at opening
  obtain ⟨component, counts⟩ := exists_component ⟨List.cons_ne_nil c part, here⟩
  simp [pieces, counts] at counted

theorem origin_of_above_temporary {disk : Disk} (isAbove : above.Above (temporaryFor path))
    (filled : above.text.toList ≠ []) : disk.origin above = disk.origin path := by
  obtain ⟨further, whole, -⟩ := exists_components_of_above_temporary isAbove
  have same : path.isAbsolute = above.isAbsolute := by
    rw [Bool.eq_iff_iff, isAbsolute_iff, isAbsolute_iff, whole,
      List.head?_append_of_ne_nil _ (components_ne_nil filled)]
  rw [Disk.origin, Disk.origin, same]

end Phrasebook.Disk
