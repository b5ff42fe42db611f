import Phrasebook.Json.Value

/-! # Fields of an object

The fields of an object lie in the order of their names, and a field is found as if they lay as they
were given: the last one given by its name.
-/

namespace Phrasebook.Json

theorem lookup_cons_ite (name first : String) (value : Json) (rest : List (String × Json)) :
    ((first, value) :: rest).lookup name =
      if name = first then some value else rest.lookup name := by
  by_cases same : name = first
  · simp [same]
  · simp [List.lookup_cons, same, beq_eq_false_iff_ne.mpr same]

theorem lookup_insertField (name other : String) (value : Json) (fields : List (String × Json)) :
    (insertField name value fields).lookup other =
      if other = name then some value else fields.lookup other := by
  induction fields with
  | nil => exact lookup_cons_ite other name value []
  | cons field rest ih =>
      obtain ⟨first, old⟩ := field
      unfold insertField
      by_cases replaced : name = first
      · rw [if_pos replaced, lookup_cons_ite, lookup_cons_ite, replaced]
        split <;> rfl
      · rw [if_neg replaced]
        by_cases before : name < first
        · rw [if_pos before, lookup_cons_ite]
        · rw [if_neg before, lookup_cons_ite, lookup_cons_ite, ih]
          by_cases sameFirst : other = first
          · have unnamed : other ≠ name := fun same => replaced (same.symm.trans sameFirst)
            rw [if_pos sameFirst, if_pos sameFirst, if_neg unnamed]
          · rw [if_neg sameFirst, if_neg sameFirst]

theorem field?_ofFields (fields : List (String × Json)) (name : String) :
    (ofFields fields).field? name = fields.reverse.lookup name := by
  have inserted (before : List (String × Json)) :
      (fields.foldl (fun sorted field => insertField field.1 field.2 sorted) before).lookup
        name = (fields.reverse.lookup name).or (before.lookup name) := by
    induction fields generalizing before with
    | nil => rfl
    | cons field rest ih =>
        rw [List.foldl_cons, ih, List.reverse_cons, List.lookup_append, lookup_insertField,
          Option.or_assoc, lookup_cons_ite]
        split <;> rfl
  have found := inserted []
  rw [List.lookup_nil, Option.or_none] at found
  exact found

end Phrasebook.Json
