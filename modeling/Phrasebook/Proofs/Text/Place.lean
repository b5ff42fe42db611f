import Mathlib.Data.String.Basic
import Phrasebook.Text.Place

/-! # Places to cut a text

A text put together from two parts is cut at the size of the first part into these two, and at no
other place than such a size can a text be cut. These are the places that strings have as valid
positions, so that the parts of a text can be read off its string as well.
-/

namespace Phrasebook.Text

variable {p : Char → Bool} {place : Nat} {text : List Char}

/-! ## Sizes -/

theorem byteSize_eq_utf8Len (text : List Char) : byteSize text = String.utf8Len text :=
  String.utf8ByteSize_ofList text

@[simp]
theorem byteSize_nil : byteSize [] = 0 :=
  rfl

@[simp]
theorem byteSize_cons (c : Char) (rest : List Char) :
    byteSize (c :: rest) = c.utf8Size + byteSize rest := by
  simp only [byteSize_eq_utf8Len, String.utf8Len_cons, Nat.add_comm]

@[simp]
theorem byteSize_append (before behind : List Char) :
    byteSize (before ++ behind) = byteSize before + byteSize behind := by
  simp only [byteSize_eq_utf8Len, String.utf8Len_append]

theorem byteSize_eq_zero_iff : byteSize text = 0 ↔ text = [] := by
  rw [byteSize_eq_utf8Len, String.utf8Len_eq_zero]

/-! ## Cuts -/

@[simp]
theorem cut?_zero (text : List Char) : cut? 0 text = some ([], text) := by
  cases text <;> rfl

theorem cut?_cons (c : Char) (place : Nat) (rest : List Char) :
    cut? (c.utf8Size + place) (c :: rest) =
      (cut? place rest).map fun parts => (c :: parts.1, parts.2) := by
  have filled : c.utf8Size + place ≠ 0 := by
    have positive := c.utf8Size_pos
    omega
  rw [cut?, if_pos (Nat.le_add_right _ _), Nat.add_sub_cancel_left]
  exact filled

@[simp]
theorem cut?_append (before behind : List Char) :
    cut? (byteSize before) (before ++ behind) = some (before, behind) := by
  induction before with
  | nil => exact cut?_zero behind
  | cons c before ih => rw [byteSize_cons, List.cons_append, cut?_cons, ih, Option.map_some]

theorem eq_append_of_cut? {parts : List Char × List Char} (cut : cut? place text = some parts) :
    text = parts.1 ++ parts.2 ∧ place = byteSize parts.1 := by
  induction text generalizing place parts with
  | nil =>
      cases place with
      | zero => cases cut; exact ⟨rfl, rfl⟩
      | succ place => cases cut
  | cons c rest ih =>
      cases place with
      | zero => cases cut; exact ⟨rfl, rfl⟩
      | succ place =>
          simp only [cut?] at cut
          split at cut
          · next fits =>
            obtain ⟨inner, found, rfl⟩ := Option.map_eq_some_iff.mp cut
            obtain ⟨whole, size⟩ := ih found
            refine ⟨congrArg (c :: ·) whole, ?_⟩
            rw [byteSize_cons, ← size]
            omega
          · cases cut

/-- A text can be cut at the valid positions of its string, and nowhere else. -/
theorem isSome_cut?_iff :
    (cut? place text).isSome ↔ (⟨place⟩ : String.Pos.Raw).IsValid (String.ofList text) := by
  rw [Option.isSome_iff_exists, String.Pos.Raw.isValid_iff_exists_append]
  constructor
  · intro ⟨parts, cut⟩
    obtain ⟨rfl, rfl⟩ := eq_append_of_cut? cut
    exact ⟨_, _, String.ofList_append, rfl⟩
  · intro ⟨before, behind, whole, same⟩
    have listed : text = before.toList ++ behind.toList := by
      rw [← String.toList_append, ← whole, String.toList_ofList]
    have size : place = byteSize before.toList := by
      rw [byteSize, String.ofList_toList]
      exact congrArg String.Pos.Raw.byteIdx same
    rw [listed, size]
    exact ⟨_, cut?_append _ _⟩

theorem slice?_between (lead part tail : List Char) :
    slice? ⟨byteSize lead, byteSize lead + byteSize part⟩ (lead ++ part ++ tail) = some part := by
  rw [slice?, ← byteSize_append, cut?_append, Option.bind_some, cut?_append, Option.map_some]

/-! ## Parts of strings -/

/-- The part of a string between two places. -/
def between (text : String) (start stop : Nat) : String :=
  String.Pos.Raw.extract text ⟨start⟩ ⟨stop⟩

theorem between_append (lead part tail : List Char) :
    between (String.ofList (lead ++ part ++ tail)) (byteSize lead) (byteSize (lead ++ part)) =
      String.ofList part := by
  simp only [between, byteSize_eq_utf8Len, String.utf8Len_append]
  exact String.extract_of_valid lead part tail

theorem isValid_byteSize (before behind : List Char) :
    (⟨byteSize before⟩ : String.Pos.Raw).IsValid (String.ofList (before ++ behind)) :=
  isSome_cut?_iff.mp (cut?_append before behind ▸ rfl)

/-! ## The first character of a class -/

theorem place?_of_outside (outside : ∀ c ∈ text, p c = false) : place? p text = none := by
  induction text with
  | nil => rfl
  | cons c rest ih =>
      obtain ⟨here, later⟩ := List.forall_mem_cons.mp outside
      simp only [place?, here, Bool.false_eq_true, if_false, ih later, Option.map_none]

theorem place?_run {c : Char} {rest : List Char} (outside : ∀ c ∈ text, p c = false)
    (inside : p c = true) : place? p (text ++ c :: rest) = some (byteSize text) := by
  induction text with
  | nil => simp only [List.nil_append, place?, inside, if_true, byteSize_nil]
  | cons first others ih =>
      obtain ⟨here, later⟩ := List.forall_mem_cons.mp outside
      simp only [List.cons_append, place?, here, Bool.false_eq_true, if_false, ih later,
        Option.map_some, byteSize_cons]

end Phrasebook.Text
