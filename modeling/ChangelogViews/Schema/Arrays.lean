import ChangelogViews.Schema.Field

/-!
# Counting arrays

The number of array nodes in a field and everything below it. It bounds how deep the work on a schema
goes, since the element of an array has at least one array less than the array itself.
-/

namespace ChangelogViews

mutual

/-- The array nodes of a field and of all below it. -/
def Field.arrays : Field → Nat
  | ⟨_, type, _, fields, element⟩ =>
    let own := if type = .known .array then 1 else 0
    let below := match fields with
      | some fields => arraysIn fields
      | none => 0
    let inside := match element with
      | some element => element.arrays
      | none => 0
    own + below + inside

def arraysIn : List Field → Nat
  | [] => 0
  | f :: rest => f.arrays + arraysIn rest

end

theorem arrays_withName (f : Field) (name : LooseText) :
    ({ f with name := name } : Field).arrays = f.arrays := by
  obtain ⟨_, type, _, fields, element⟩ := f
  cases fields <;> cases element <;> simp [Field.arrays]

theorem arraysIn_getD_le (f : Field) : arraysIn (f.fields.getD []) ≤ f.arrays := by
  obtain ⟨_, type, _, fields, element⟩ := f
  cases fields with
  | none => exact Nat.zero_le _
  | some fields => cases element <;> simp only [Option.getD_some, Field.arrays] <;> omega

theorem arrayElement_arrays_lt (f : Field) (h : f.type = .known .array) :
    f.arrayElement.arrays < f.arrays := by
  obtain ⟨name, type, description, fields, element⟩ := f
  simp only at h
  subst h
  cases element with
  | some inner =>
    cases fields with
    | none => simp [Field.arrayElement, Field.arrays]
    | some fields =>
      simp only [Field.arrayElement, Field.arrays, if_true]
      exact Nat.lt_of_lt_of_le (Nat.lt_succ_self _) (by omega)
  | none => cases fields <;> simp [Field.arrayElement, Field.ofKind, Field.arrays]

end ChangelogViews
