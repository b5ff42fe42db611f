import Phrasebook.Json.Parser

/-! # Steps and depth

A reader of values is given a number of steps and a depth. Every step takes a character or stands
next to one that does, so a text of some length needs at most twice as many steps and one more; all
numbers from there on come to the same. What is left to tell two readers apart is the depth, and one
that may go deeper makes the same of a text unless the other refuses it as too deep.
-/

namespace Phrasebook.Json

/-! ## What is left of a text -/

/-- A result leaves fewer characters of the text than `bound`; `left` tells where it has left the
    text. -/
def LeavesFewer {α : Type} (left : α → Cursor) (bound : Nat) (result : Except Fault α) : Prop :=
  ∀ a, result = .ok a → (left a).rest.length < bound

section

variable {α β : Type} {left : α → Cursor} {leftToo : β → Cursor} {bound boundToo : Nat}
  {result : Except Fault α}

theorem LeavesFewer.error (fault : Fault) : LeavesFewer left bound (.error fault) := by
  intro a read
  cases read

theorem LeavesFewer.ok {a : α} (few : (left a).rest.length < bound) :
    LeavesFewer left bound (.ok a) := by
  intro b read
  cases read
  exact few

theorem LeavesFewer.mono (fewer : LeavesFewer left bound result) (le : bound ≤ boundToo) :
    LeavesFewer left boundToo result :=
  fun a read => Nat.lt_of_lt_of_le (fewer a read) le

theorem LeavesFewer.bind {f : α → Except Fault β} (fewer : LeavesFewer left bound result)
    (later : ∀ a, (left a).rest.length < bound → LeavesFewer leftToo boundToo (f a)) :
    LeavesFewer leftToo boundToo (result >>= f) := by
  cases result with
  | error fault => exact .error fault
  | ok a => exact later a (fewer a rfl)

theorem LeavesFewer.map {f : α → β} (fewer : LeavesFewer left bound result)
    (same : ∀ a, leftToo (f a) = left a) : LeavesFewer leftToo bound (result.map f) := by
  cases result with
  | error fault => exact .error fault
  | ok a => exact .ok ((same a).symm ▸ fewer a rfl)

end

theorem length_skipBlanks_le (cursor : Cursor) :
    cursor.skipBlanks.rest.length ≤ cursor.rest.length :=
  (List.dropWhile_suffix isBlank).length_le

theorem leavesFewer_word (letters : List Char) (cursor : Cursor) :
    LeavesFewer id (cursor.rest.length + 1) (word letters cursor) := by
  induction letters generalizing cursor with
  | nil => exact .ok (Nat.lt_succ_self _)
  | cons expected letters ih =>
      obtain ⟨index, rest⟩ := cursor
      cases rest with
      | nil => exact .error _
      | cons c rest =>
          simp only [word]
          split
          · exact (ih _).mono (by simp [Cursor.past])
          · exact .error _

theorem leavesFewer_stringFrom (seen : List Char) (cursor : Cursor) :
    LeavesFewer Prod.snd cursor.rest.length (stringFrom seen cursor) := by
  fun_induction stringFrom seen cursor with
  | case1 | case3 | case5 => exact .error _
  | case2 seen cursor rest shape => exact .ok (by simp [Cursor.past, shape])
  | case4 seen cursor rest shape c next read ih =>
      have shorter := escape_shorter read
      exact ih.mono (by rw [shape]; exact Nat.le_succ_of_le (Nat.le_of_lt shorter))
  | case6 seen cursor c rest _ _ shape _ ih => exact ih.mono (by simp [Cursor.past, shape])

theorem leavesFewer_stringBody (cursor : Cursor) :
    LeavesFewer Prod.snd cursor.rest.length (stringBody cursor) :=
  leavesFewer_stringFrom [] cursor

/-! ### Numbers -/

theorem length_digitRun_le (cursor : Cursor) :
    (digitRun cursor).2.rest.length ≤ cursor.rest.length :=
  (List.dropWhile_suffix Char.isDigit).length_le

theorem leavesFewer_ofParts (negative : Bool) (significand : Nat) (exponent : Int)
    (cursor : Cursor) :
    LeavesFewer Prod.snd (cursor.rest.length + 1)
      (ofParts negative significand exponent cursor) := by
  simp only [ofParts]
  split
  · exact .ok (Nat.lt_succ_self _)
  · exact .error _

theorem leavesFewer_exponentFrom (negative : Bool) (significand : Nat) (exponent : Int)
    (down : Bool) (cursor : Cursor) :
    LeavesFewer Prod.snd (cursor.rest.length + 1)
      (exponentFrom negative significand exponent down cursor) := by
  have shorter := length_digitRun_le cursor
  unfold exponentFrom
  split
  · exact .error _
  · split
    · exact .error _
    · dsimp only
      split
      · exact (leavesFewer_ofParts _ _ _ _).mono (by omega)
      · split
        · exact .error _
        · exact .ok (Nat.lt_succ_of_le shorter)

theorem leavesFewer_exponentPart (negative : Bool) (significand : Nat) (exponent : Int)
    (cursor : Cursor) :
    LeavesFewer Prod.snd (cursor.rest.length + 1)
      (exponentPart negative significand exponent cursor) := by
  unfold exponentPart
  split
  · next shape => exact (leavesFewer_exponentFrom _ _ _ _ _).mono (by simp [Cursor.past, shape])
  · next shape => exact (leavesFewer_exponentFrom _ _ _ _ _).mono (by simp [Cursor.past, shape])
  · exact leavesFewer_exponentFrom _ _ _ _ _

theorem leavesFewer_fractionPart (negative : Bool) (significand : Nat) (exponent : Int)
    (cursor : Cursor) :
    LeavesFewer Prod.snd (cursor.rest.length + 1)
      (fractionPart negative significand exponent cursor) := by
  have shorter := length_digitRun_le cursor
  simp only [fractionPart]
  split
  · exact .error _
  · split
    · exact (leavesFewer_ofParts _ _ _ _).mono (by omega)
    · next shape =>
      rw [shape, List.length_cons] at shorter
      split
      · exact (leavesFewer_exponentPart _ _ _ _).mono (by simp only [Cursor.past]; omega)
      · exact (leavesFewer_ofParts _ _ _ _).mono (by rw [shape, List.length_cons]; omega)

theorem leavesFewer_afterInteger (negative : Bool) (significand dropped : Nat) (cursor : Cursor) :
    LeavesFewer Prod.snd (cursor.rest.length + 1)
      (afterInteger negative significand dropped cursor) := by
  have whole : LeavesFewer Prod.snd (cursor.rest.length + 1)
      (if dropped = 0 then .ok (wholeNumber negative significand, cursor)
        else ofParts negative significand dropped cursor) := by
    split
    · exact .ok (Nat.lt_succ_self _)
    · exact leavesFewer_ofParts _ _ _ _
  simp only [afterInteger]
  split
  · exact whole
  · next shape =>
    split
    · exact (leavesFewer_fractionPart _ _ _ _).mono (by simp [Cursor.past, shape])
    · split
      · exact (leavesFewer_exponentPart _ _ _ _).mono (by simp [Cursor.past, shape])
      · exact whole

theorem leavesFewer_unsignedNumber (negative : Bool) (cursor : Cursor) :
    LeavesFewer Prod.snd cursor.rest.length (unsignedNumber negative cursor) := by
  unfold unsignedNumber
  split
  · exact .error _
  · next c rest shape =>
    split
    · dsimp only
      split
      · exact .error _
      · exact (leavesFewer_afterInteger _ _ _ _).mono (by simp [Cursor.past, shape])
    · split
      · next digit =>
        have shorter : ((c :: rest).dropWhile Char.isDigit).length ≤ rest.length := by
          rw [List.dropWhile_cons_of_pos digit]
          exact (List.dropWhile_suffix Char.isDigit).length_le
        exact (leavesFewer_afterInteger _ _ _ _).mono
          (by rw [shape, List.length_cons]; exact Nat.succ_le_succ shorter)
      · exact .error _

theorem leavesFewer_scalar? {c : Char} {rest : List Char} {cursor : Cursor}
    {result : Except Fault (Json × Cursor)} (shape : cursor.rest = c :: rest)
    (scalar : scalar? c rest cursor = some result) :
    LeavesFewer Prod.snd cursor.rest.length result := by
  rw [shape, List.length_cons]
  unfold scalar? at scalar
  split at scalar
  · obtain rfl := Option.some.inj scalar
    exact (leavesFewer_word _ _).map fun _ => rfl
  · split at scalar
    · obtain rfl := Option.some.inj scalar
      exact ((leavesFewer_stringBody _).mono (Nat.le_succ _)).map fun _ => rfl
    · split at scalar
      · obtain rfl := Option.some.inj scalar
        exact ((leavesFewer_unsignedNumber _ _).mono (Nat.le_succ _)).map fun _ => rfl
      · split at scalar
        · obtain rfl := Option.some.inj scalar
          exact ((leavesFewer_unsignedNumber _ _).mono
            (Nat.le_of_eq (congrArg List.length shape))).map fun _ => rfl
        · cases scalar

/-! ### Between the parts of a value -/

/-- Where the text goes on. -/
def Next.cursor : Next → Cursor
  | .done cursor | .more cursor => cursor

theorem leavesFewer_colon (cursor : Cursor) :
    LeavesFewer id (cursor.rest.length + 1) (colon cursor) := by
  have skipped := length_skipBlanks_le cursor
  simp only [colon]
  split
  · exact .error _
  · next shape =>
    rw [shape, List.length_cons] at skipped
    split
    · exact .ok (by simp only [id, Cursor.past]; omega)
    · exact .error _

theorem leavesFewer_nextItem (first : Bool) (cursor : Cursor) :
    LeavesFewer Next.cursor (cursor.rest.length + 1) (nextItem first cursor) := by
  have skipped := length_skipBlanks_le cursor
  unfold nextItem
  generalize cursor.skipBlanks = cursor at skipped ⊢
  dsimp only
  split
  · exact .error _
  · next c rest shape =>
    have behind := length_skipBlanks_le (cursor.past c rest)
    have whole : cursor.rest.length = rest.length + 1 := by rw [shape, List.length_cons]
    simp only [Cursor.past] at behind
    split
    · exact .ok (by simp only [Next.cursor, Cursor.past]; omega)
    · split
      · exact .ok (by simp only [Next.cursor]; omega)
      · split
        · split
          · exact .error _
          · split
            · exact .error _
            · exact .ok (by simp only [Next.cursor, Cursor.past]; omega)
        · exact .error _

theorem leavesFewer_nextField (first : Bool) (cursor : Cursor) :
    LeavesFewer Next.cursor (cursor.rest.length + 1) (nextField first cursor) := by
  have skipped := length_skipBlanks_le cursor
  unfold nextField
  generalize cursor.skipBlanks = cursor at skipped ⊢
  dsimp only
  split
  · exact .error _
  · next c rest shape =>
    have behind := length_skipBlanks_le (cursor.past c rest)
    have whole : cursor.rest.length = rest.length + 1 := by rw [shape, List.length_cons]
    simp only [Cursor.past] at behind
    have past : (cursor.past c rest).rest.length < cursor.rest.length + 1 := by
      simp only [Cursor.past]
      omega
    split
    · exact .ok (Nat.lt_of_lt_of_le past (Nat.succ_le_succ skipped))
    · split
      · split
        · exact .ok (Nat.lt_of_lt_of_le past (Nat.succ_le_succ skipped))
        · exact .error _
      · split
        · split
          · exact .error _
          · next d others shapeToo =>
            simp only [Cursor.past] at shapeToo
            rw [shapeToo, List.length_cons] at behind
            split
            · exact .ok (by simp only [Next.cursor, Cursor.past]; omega)
            · split
              · exact .error _
              · exact .error _
        · exact .error _

/-! ### Values -/

/-- With a number of steps a value takes at least one character, and the rest of an array or an
    object gives none back. -/
structure LeavesWithin (steps : Nat) : Prop where
  ofValue : ∀ depth cursor, LeavesFewer Prod.snd cursor.rest.length (value steps depth cursor)
  ofItems : ∀ depth first cursor,
    LeavesFewer Prod.snd (cursor.rest.length + 1) (items steps depth first cursor)
  ofFields : ∀ depth first before cursor,
    LeavesFewer Prod.snd (cursor.rest.length + 1) (fields steps depth first before cursor)

section

variable {steps : Nat}

theorem leavesFewer_value_succ (within : LeavesWithin steps) (depth : Nat) (cursor : Cursor) :
    LeavesFewer Prod.snd cursor.rest.length (value (steps + 1) depth cursor) := by
  have skipped := length_skipBlanks_le cursor
  unfold value
  generalize cursor.skipBlanks = cursor at skipped ⊢
  dsimp only
  split
  · exact .error _
  · next c rest shape =>
    split
    · next result scalar => exact (leavesFewer_scalar? shape scalar).mono skipped
    · rw [shape, List.length_cons] at skipped
      split
      · split
        · exact .error _
        · exact ((within.ofItems _ _ _).mono skipped).map fun _ => rfl
      · split
        · split
          · exact .error _
          · exact ((within.ofFields _ _ _ _).mono skipped).map fun _ => rfl
        · exact .error _

theorem leavesFewer_items_succ (within : LeavesWithin steps) (depth : Nat) (first : Bool)
    (cursor : Cursor) :
    LeavesFewer Prod.snd (cursor.rest.length + 1) (items (steps + 1) depth first cursor) := by
  unfold items
  apply (leavesFewer_nextItem first cursor).bind
  rintro (next | next) fewer
  · exact .ok fewer
  · apply (within.ofValue depth next).bind
    rintro ⟨item, next⟩ fewerToo
    apply (within.ofItems depth false next).bind
    rintro ⟨others, next⟩ fewest
    simp only [Next.cursor] at fewer fewerToo fewest
    exact .ok (by dsimp only; omega)

theorem leavesFewer_fields_succ (within : LeavesWithin steps) (depth : Nat) (first : Bool)
    (before : List (String × Json)) (cursor : Cursor) :
    LeavesFewer Prod.snd (cursor.rest.length + 1)
      (fields (steps + 1) depth first before cursor) := by
  unfold fields
  apply (leavesFewer_nextField first cursor).bind
  rintro (next | next) fewer
  · exact .ok fewer
  · apply (leavesFewer_stringBody next).bind
    rintro ⟨name, next⟩ named
    apply (leavesFewer_colon next).bind
    rintro next behind
    apply (within.ofValue depth next).bind
    rintro ⟨item, next⟩ read
    simp only [Next.cursor, id] at fewer named behind read
    exact (within.ofFields depth false _ next).mono (by omega)

end

theorem leavesWithin (steps : Nat) : LeavesWithin steps := by
  induction steps with
  | zero => exact ⟨fun _ _ => .error _, fun _ _ _ => .error _, fun _ _ _ _ => .error _⟩
  | succ steps ih =>
      exact ⟨leavesFewer_value_succ ih, leavesFewer_items_succ ih, leavesFewer_fields_succ ih⟩

/-! ## Two readers of a text -/

/-- Both come to the same, unless the first refuses the text as too deep. -/
inductive SameUnlessDeep {α : Type} : Except Fault α → Except Fault α → Prop
  | same (result : Except Fault α) : SameUnlessDeep result result
  | deep (index : Nat) (other : Except Fault α) : SameUnlessDeep (.error ⟨.tooDeep, index⟩) other

section

variable {α β : Type} {one other : Except Fault α}

theorem SameUnlessDeep.eq_or_deep (alike : SameUnlessDeep one other) :
    one = other ∨ ∃ index, one = .error ⟨.tooDeep, index⟩ := by
  cases alike with
  | same => exact .inl rfl
  | deep index => exact .inr ⟨index, rfl⟩

theorem SameUnlessDeep.bind {f g : α → Except Fault β} (alike : SameUnlessDeep one other)
    (later : ∀ a, one = .ok a → SameUnlessDeep (f a) (g a)) :
    SameUnlessDeep (one >>= f) (other >>= g) := by
  cases alike with
  | deep index => exact .deep index _
  | same =>
      cases one with
      | error fault => exact .same _
      | ok a => exact later a rfl

theorem SameUnlessDeep.map (alike : SameUnlessDeep one other) (f : α → β) :
    SameUnlessDeep (one.map f) (other.map f) := by
  cases alike with
  | deep index => exact .deep index _
  | same => exact .same _

end

/-- A number of steps is enough for the texts that are short for it: with any other number that is
    enough and a greater depth they are read alike. -/
structure SufficesWithin (steps : Nat) : Prop where
  ofValue : ∀ stepsToo cursor {depth depthToo}, depth ≤ depthToo →
    2 * cursor.rest.length + 1 ≤ steps → 2 * cursor.rest.length + 1 ≤ stepsToo →
      SameUnlessDeep (value steps depth cursor) (value stepsToo depthToo cursor)
  ofItems : ∀ stepsToo cursor {depth depthToo first}, depth ≤ depthToo →
    2 * cursor.rest.length + 2 ≤ steps → 2 * cursor.rest.length + 2 ≤ stepsToo →
      SameUnlessDeep (items steps depth first cursor) (items stepsToo depthToo first cursor)
  ofFields : ∀ stepsToo cursor {depth depthToo first before}, depth ≤ depthToo →
    2 * cursor.rest.length + 2 ≤ steps → 2 * cursor.rest.length + 2 ≤ stepsToo →
      SameUnlessDeep (fields steps depth first before cursor)
        (fields stepsToo depthToo first before cursor)

section

variable {steps stepsToo depth depthToo : Nat} {cursor : Cursor}

/-- Before an array or an object is entered, the depth is looked at. -/
theorem SameUnlessDeep.enter {α : Type} {one other : Except Fault α} (deeper : depth ≤ depthToo)
    (alike : SameUnlessDeep one other) :
    SameUnlessDeep (if depth ≤ 1 then .error (cursor.faultAhead .tooDeep) else one)
      (if depthToo ≤ 1 then .error (cursor.faultAhead .tooDeep) else other) := by
  split
  · exact .deep _ _
  · rw [if_neg (by omega)]
    exact alike

theorem suffices_value_succ (within : SufficesWithin steps) (deeper : depth ≤ depthToo)
    (enough : 2 * cursor.rest.length + 1 ≤ steps + 1)
    (enoughToo : 2 * cursor.rest.length + 1 ≤ stepsToo + 1) :
    SameUnlessDeep (value (steps + 1) depth cursor) (value (stepsToo + 1) depthToo cursor) := by
  have skipped := length_skipBlanks_le cursor
  unfold value
  generalize cursor.skipBlanks = cursor at skipped ⊢
  dsimp only
  split
  · exact .same _
  · next c rest shape =>
    rw [shape, List.length_cons] at skipped
    split
    · exact .same _
    · have less : depth - 1 ≤ depthToo - 1 := Nat.sub_le_sub_right deeper 1
      have past : (cursor.past c rest).rest.length = rest.length := rfl
      split
      · exact .enter deeper ((within.ofItems _ _ less (by omega) (by omega)).map _)
      · split
        · exact .enter deeper ((within.ofFields _ _ less (by omega) (by omega)).map _)
        · exact .same _

theorem suffices_items_succ (within : SufficesWithin steps) (deeper : depth ≤ depthToo)
    (enough : 2 * cursor.rest.length + 2 ≤ steps + 1)
    (enoughToo : 2 * cursor.rest.length + 2 ≤ stepsToo + 1) (first : Bool) :
    SameUnlessDeep (items (steps + 1) depth first cursor)
      (items (stepsToo + 1) depthToo first cursor) := by
  unfold items
  apply (SameUnlessDeep.same (nextItem first cursor)).bind
  rintro (next | next) ahead
  · exact .same _
  · have fewer := leavesFewer_nextItem first cursor _ ahead
    simp only [Next.cursor] at fewer
    apply (within.ofValue _ _ deeper (by omega) (by omega)).bind
    rintro ⟨item, next⟩ read
    have fewest := (leavesWithin steps).ofValue _ _ _ read
    dsimp only at fewest
    apply (within.ofItems _ _ deeper (by omega) (by omega)).bind
    rintro ⟨others, next⟩ -
    exact .same _

theorem suffices_fields_succ (within : SufficesWithin steps) (deeper : depth ≤ depthToo)
    (enough : 2 * cursor.rest.length + 2 ≤ steps + 1)
    (enoughToo : 2 * cursor.rest.length + 2 ≤ stepsToo + 1) (first : Bool)
    (before : List (String × Json)) :
    SameUnlessDeep (fields (steps + 1) depth first before cursor)
      (fields (stepsToo + 1) depthToo first before cursor) := by
  unfold fields
  apply (SameUnlessDeep.same (nextField first cursor)).bind
  rintro (next | next) ahead
  · exact .same _
  · have fewer := leavesFewer_nextField first cursor _ ahead
    simp only [Next.cursor] at fewer
    apply (SameUnlessDeep.same (stringBody next)).bind
    rintro ⟨name, next⟩ named
    have named := leavesFewer_stringBody _ _ named
    dsimp only at named
    apply (SameUnlessDeep.same (colon next)).bind
    rintro next behind
    have behind := leavesFewer_colon _ _ behind
    simp only [id] at behind
    apply (within.ofValue _ _ deeper (by omega) (by omega)).bind
    rintro ⟨item, next⟩ read
    have fewest := (leavesWithin steps).ofValue _ _ _ read
    dsimp only at fewest
    exact within.ofFields _ _ deeper (by omega) (by omega)

end

theorem sufficesWithin (steps : Nat) : SufficesWithin steps := by
  induction steps with
  | zero =>
      exact ⟨fun _ _ _ _ _ enough _ => by omega, fun _ _ _ _ _ _ enough _ => by omega,
        fun _ _ _ _ _ _ _ enough _ => by omega⟩
  | succ steps ih =>
      have positive {stepsToo size : Nat} (enough : size + 1 ≤ stepsToo) :
          ∃ fewer, stepsToo = fewer + 1 :=
        Nat.exists_eq_succ_of_ne_zero (by omega)
      constructor
      · intro stepsToo cursor depth depthToo deeper enough enoughToo
        obtain ⟨stepsToo, rfl⟩ := positive enoughToo
        exact suffices_value_succ ih deeper enough enoughToo
      · intro stepsToo cursor depth depthToo first deeper enough enoughToo
        obtain ⟨stepsToo, rfl⟩ := positive enoughToo
        exact suffices_items_succ ih deeper enough enoughToo first
      · intro stepsToo cursor depth depthToo first before deeper enough enoughToo
        obtain ⟨stepsToo, rfl⟩ := positive enoughToo
        exact suffices_fields_succ ih deeper enough enoughToo first before

end Phrasebook.Json
