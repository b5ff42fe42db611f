import Phrasebook.Json.Printer

/-! # What printed JSON is made of

Printed on one line, a value has no control character: strings escape them, and all else is written
with visible characters. So what is printed really is one line.
-/

namespace Phrasebook.Json

open Phrasebook.Number (Decimal Layout)

/-- Not one of the control characters below the space. -/
def IsShown (c : Char) : Prop :=
  0x20 ≤ c.toNat

instance (c : Char) : Decidable (IsShown c) :=
  inferInstanceAs (Decidable (0x20 ≤ c.toNat))

theorem isShown_of_all {text : List Char} (all : text.all (fun c => 0x20 ≤ c.toNat) = true) :
    ∀ c ∈ text, IsShown c := by
  simpa [IsShown] using all

/-! ## Numbers -/

theorem isShown_digitChars {n : Nat} : ∀ c ∈ Decimal.digitChars n, IsShown c := by
  intro c member
  have digit := Nat.isDigit_of_mem_toDigits (by decide) (by decide) member
  rw [Char.isDigit, Bool.and_eq_true, decide_eq_true_eq, decide_eq_true_eq] at digit
  have low : '0'.toNat ≤ c.toNat := digit.1
  exact Nat.le_trans (by decide) low

theorem isShown_exponentText (e : Int) : ∀ c ∈ Decimal.exponentText e, IsShown c := by
  unfold Decimal.exponentText
  refine List.forall_mem_cons.mpr ⟨by decide, List.forall_mem_cons.mpr ⟨?_, isShown_digitChars⟩⟩
  split <;> decide

theorem isShown_decimalText (layout : Layout) (x : Decimal) : ∀ c ∈ x.text layout, IsShown c := by
  have digits := isShown_digitChars (n := x.digits)
  have taken (n : Nat) : ∀ c ∈ (Decimal.digitChars x.digits).take n, IsShown c :=
    fun c member => digits c (List.mem_of_mem_take member)
  have dropped (n : Nat) : ∀ c ∈ (Decimal.digitChars x.digits).drop n, IsShown c :=
    fun c member => digits c (List.mem_of_mem_drop member)
  have zeros (n : Nat) : ∀ c ∈ List.replicate n '0', IsShown c := fun c member => by
    rw [List.eq_of_mem_replicate member]
    decide
  have point : IsShown '.' := by decide
  have zero : IsShown '0' := by decide
  unfold Decimal.text
  dsimp only
  split
  · simp only [List.forall_mem_append, List.forall_mem_cons]
    exact ⟨⟨digits, zeros _⟩, point, zero, List.forall_mem_nil _⟩
  split
  · simp only [List.forall_mem_append, List.forall_mem_cons]
    exact ⟨taken _, point, dropped _⟩
  split
  · simp only [List.forall_mem_append, List.forall_mem_cons]
    exact ⟨⟨⟨zero, point, List.forall_mem_nil _⟩, zeros _⟩, digits⟩
  · simp only [List.forall_mem_append]
    refine ⟨⟨taken _, ?_⟩, isShown_exponentText _⟩
    split
    · exact List.forall_mem_nil _
    · exact List.forall_mem_cons.mpr ⟨point, List.drop_one ▸ dropped 1⟩

theorem isShown_numberText (n : Json.Number) : ∀ c ∈ n.text, IsShown c := by
  have sign (negative : Bool) : ∀ c ∈ if negative then ['-'] else [], IsShown c := by
    cases negative <;> exact isShown_of_all rfl
  cases n with
  | integer value =>
      simp only [Number.text, List.forall_mem_append]
      exact ⟨by simpa using sign (decide (value < 0)), isShown_digitChars⟩
  | binary negative magnitude =>
      simp only [Number.text, binaryText, List.forall_mem_append]
      exact ⟨sign negative, isShown_decimalText _ _⟩

/-! ## Strings -/

theorem isShown_hexDigit (n : Nat) : IsShown (hexDigit n) := by
  have all : ∀ n : Fin 16, IsShown (Nat.digitChar n) := by decide
  exact all ⟨n % 16, Nat.mod_lt _ (by decide)⟩

theorem isShown_escapedChar (c : Char) : ∀ d ∈ escapedChar c, IsShown d := by
  unfold escapedChar
  -- The seven characters with an escape of their own come first, then what is left.
  split
  iterate 7 exact isShown_of_all rfl
  split
  · simp only [List.forall_mem_cons]
    exact ⟨by decide, by decide, by decide, by decide, isShown_hexDigit _, isShown_hexDigit _,
      List.forall_mem_nil _⟩
  next shown => exact List.forall_mem_singleton.mpr (Nat.le_of_not_lt shown)

theorem isShown_stringText (text : String) : ∀ c ∈ stringText text, IsShown c := by
  simp only [stringText, List.forall_mem_append, List.forall_mem_cons, List.mem_flatMap]
  refine ⟨⟨by decide, ?_⟩, by decide, List.forall_mem_nil _⟩
  rintro c ⟨d, -, member⟩
  exact isShown_escapedChar d c member

/-! ## Values -/

mutual

theorem isShown_compactChars : (value : Json) → ∀ c ∈ value.compactChars, IsShown c
  | .null => isShown_of_all rfl
  | .bool true => isShown_of_all rfl
  | .bool false => isShown_of_all rfl
  | .number n => isShown_numberText n
  | .string text => isShown_stringText text
  | .array items => by
      simp only [compactChars, List.forall_mem_append, List.forall_mem_cons]
      exact ⟨⟨by decide, isShown_compactItems items⟩, by decide, List.forall_mem_nil _⟩
  | .object fields => by
      simp only [compactChars, List.forall_mem_append, List.forall_mem_cons]
      exact ⟨⟨by decide, isShown_compactFields fields⟩, by decide, List.forall_mem_nil _⟩

theorem isShown_compactItems : (items : List Json) → ∀ c ∈ compactItems items, IsShown c
  | [] => List.forall_mem_nil _
  | [item] => isShown_compactChars item
  | item :: next :: rest => by
      simp only [compactItems, List.forall_mem_append, List.forall_mem_cons]
      exact ⟨isShown_compactChars item, by decide, isShown_compactItems (next :: rest)⟩

theorem isShown_compactFields :
    (fields : List (String × Json)) → ∀ c ∈ compactFields fields, IsShown c
  | [] => List.forall_mem_nil _
  | [(name, value)] => by
      simp only [compactFields, List.forall_mem_append, List.forall_mem_cons]
      exact ⟨isShown_stringText name, by decide, isShown_compactChars value⟩
  | (name, value) :: next :: rest => by
      simp only [compactFields, List.forall_mem_append, List.forall_mem_cons]
      exact ⟨⟨isShown_stringText name, by decide, isShown_compactChars value⟩, by decide,
        isShown_compactFields (next :: rest)⟩

end

/-- A value on one line is made of characters that are no control characters. -/
theorem isShown_compact (value : Json) : ∀ c ∈ value.compact.toList, IsShown c := by
  simpa [compact] using isShown_compactChars value

end Phrasebook.Json
