import ChangelogViews.Schema.Arrays
import ChangelogViews.Views.Flat

/-!
# The size of what is left

Flattening splits arrays off. Their element schemas together hold fewer arrays than the fields that were
flattened, by one for each of them, so compiling one view after another comes to an end.
-/

namespace ChangelogViews

/-- The array nodes in what an element holds. -/
def ElementContent.arrays : ElementContent → Nat
  | .members fields => arraysIn fields
  | .atRoot element => element.arrays

def childrenSize : List ChildSchema → Nat
  | [] => 0
  | child :: rest => child.content.arrays + 1 + childrenSize rest

def childrenOf (steps : List Step) : List ChildSchema :=
  steps.filterMap fun
    | .child child => some child
    | _ => none

theorem childrenOf_append (a b : List Step) : childrenOf (a ++ b) = childrenOf a ++ childrenOf b := by
  simp [childrenOf]

theorem childrenSize_append (a b : List ChildSchema) :
    childrenSize (a ++ b) = childrenSize a + childrenSize b := by
  induction a with
  | nil => simp [childrenSize]
  | cons child rest ih => simp [childrenSize, ih, Nat.add_assoc]

theorem childrenSize_filter_le (children : List ChildSchema) (p : ChildSchema → Bool) :
    childrenSize (children.filter p) ≤ childrenSize children := by
  induction children with
  | nil => exact Nat.le_refl _
  | cons child rest ih =>
    simp only [List.filter_cons]
    split
    · simp only [childrenSize]; omega
    · simp only [childrenSize]; omega

def keyed (children : List ChildSchema) : List ChildSchema := children.foldr ChildSchema.before []

theorem childrenSize_filter_add_le {child : ChildSchema} {children : List ChildSchema}
    {p : ChildSchema → Bool} (mem : child ∈ children) (dropped : p child = false) :
    child.content.arrays + 1 + childrenSize (children.filter p) ≤ childrenSize children := by
  induction children with
  | nil => cases mem
  | cons first rest ih =>
    have kept : childrenSize (rest.filter p) ≤ childrenSize rest := childrenSize_filter_le rest p
    rcases List.mem_cons.mp mem with rfl | later
    · simp only [List.filter_cons, dropped, Bool.false_eq_true, if_false, childrenSize]
      omega
    · have bound := ih later
      simp only [List.filter_cons]
      split
      · simp only [childrenSize]; omega
      · simp only [childrenSize]; omega

theorem childrenSize_before_le (child : ChildSchema) (later : List ChildSchema) :
    childrenSize (child.before later) ≤ childrenSize (child :: later) := by
  unfold ChildSchema.before
  cases found : later.find? (·.key == child.key) with
  | none =>
    have kept := childrenSize_filter_le later (·.key != child.key)
    simp only [Option.getD_none, childrenSize]
    omega
  | some other =>
    have same : (other.key != child.key) = false := by simpa using List.find?_some found
    have bound := childrenSize_filter_add_le (p := (·.key != child.key))
      (List.mem_of_find?_eq_some found) same
    simp only [Option.getD_some, childrenSize]
    omega

theorem childrenSize_keyed_le (children : List ChildSchema) :
    childrenSize (keyed children) ≤ childrenSize children := by
  induction children with
  | nil => exact Nat.le_refl _
  | cons child rest ih =>
    have bound := childrenSize_before_le child (keyed rest)
    simp only [keyed, List.foldr_cons, childrenSize] at bound ih ⊢
    omega

theorem children_of_takeSteps {steps : List Step} {taken : List TakenLabel} {flat : Flat}
    (h : takeSteps taken steps = .ok flat) : flat.children = keyed (childrenOf steps) := by
  induction steps generalizing taken flat with
  | nil => cases h; rfl
  | cons s rest ih =>
    cases s with
    | fail e => simp [takeSteps] at h
    | child c =>
      simp only [takeSteps, bind, Except.bind] at h
      split at h
      · cases h
      · next f hf => cases h; simp [childrenOf, keyed, ih hf]
    | column c =>
      simp only [takeSteps, bind, Except.bind] at h
      split at h
      · cases h
      · split at h
        · cases h
        · next f hf => cases h; simp [childrenOf, keyed, ih hf]

theorem childOf_arrays_lt (f : Field) (h : f.type = .known .array) (path jsonPath : List String) :
    (childOf f path jsonPath).content.arrays < f.arrays := by
  have lt := arrayElement_arrays_lt f h
  simp only [childOf]
  split
  · exact Nat.lt_of_le_of_lt (arraysIn_getD_le _) lt
  · simpa [ElementContent.arrays, arrays_withName] using lt

theorem childrenOf_plainSteps (d : Sql.Dialect) (source : String) (f : Field)
    (path jsonPath : List String) : childrenOf (plainSteps d source f path jsonPath) = [] := by
  simp only [plainSteps]
  split
  · rfl
  · split
    · rfl
    · simp [childrenOf]

mutual

theorem childrenSize_steps_le (d : Sql.Dialect) (source : String) (path jsonPath : List String) :
    (f : Field) → childrenSize (childrenOf (f.steps d source path jsonPath)) ≤ f.arrays
  | ⟨name, type, description, fields, element⟩ => by
    unfold Field.steps
    split
    · simp [childrenOf, childrenSize]
    · split
      · split
        · simp [childrenOf, childrenSize]
        · split
          · next inner =>
            refine Nat.le_trans (childrenSize_fieldSteps_le d source path jsonPath [] inner) ?_
            exact arraysIn_getD_le ⟨name, .known .map, description, some inner, element⟩
          · simp [childrenOf, childrenSize]
      · split
        · simp [childrenOf, childrenSize]
        · exact childOf_arrays_lt ⟨name, .known .array, description, _, element⟩ rfl path jsonPath
      · rw [childrenOf_plainSteps]; simp [childrenSize]

theorem childrenSize_fieldSteps_le (d : Sql.Dialect) (source : String)
    (path jsonPath : List String) (seen : List LooseText) : (fields : List Field) →
    childrenSize (childrenOf (fieldSteps d source path jsonPath seen fields)) ≤ arraysIn fields
  | [] => by simp [fieldSteps, childrenOf, childrenSize]
  | f :: rest => by
    have first := childrenSize_steps_le d source (path ++ [f.name.shown]) (jsonPath ++ [f.name.shown]) f
    have others := childrenSize_fieldSteps_le d source path jsonPath (f.name :: seen) rest
    rw [fieldSteps, arraysIn]
    split
    · simp [childrenOf, childrenSize]
    · rw [childrenOf_append, childrenSize_append]; omega

end

theorem childrenSize_flatten_le {child : ChildSchema} {d : Sql.Dialect} {source : String}
    {reserved : List String} {flat : Flat} (h : child.flatten d source reserved = .ok flat) :
    childrenSize flat.children ≤ child.content.arrays := by
  unfold ChildSchema.flatten at h
  rw [children_of_takeSteps h]
  refine Nat.le_trans (childrenSize_keyed_le _) ?_
  split
  · next fields e => rw [e]; exact childrenSize_fieldSteps_le d source [] [] [] fields
  · next element e => rw [e]; exact childrenSize_steps_le d source [element.name.shown] [] element

end ChangelogViews
