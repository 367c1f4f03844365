import ChangelogViews.Proofs.Views.ArrayNodes

/-!
# Arrays inside arrays

An array lies in the documents of its schema or in the elements of another array, where maps alone
lead to it (`Schema.Holds`, `ArrayNode.Holds`). Every array of a schema is reached that way, from one
array to the next, so what passes on from an array to those it holds holds of all of them
(`Schema.arrayNodes_induction`).
-/

namespace ChangelogViews

/-- A field that some fields hold through maps alone, with the names that lead to it. -/
inductive Reaches (fields : List Field) : List String → Field → Prop
  | listed {f : Field} (declared : f ∈ fields) : Reaches fields [f.name.shown] f
  | member {names : List String} {map f : Field} (above : Reaches fields names map)
      (declared : f ∈ map.members) : Reaches fields (names ++ [f.name.shown]) f

theorem Reaches.ne_nil {fields : List Field} {names : List String} {f : Field}
    (reaches : Reaches fields names f) : names ≠ [] := by
  cases reaches with
  | listed _ => exact List.cons_ne_nil _ _
  | member _ _ => exact List.append_ne_nil_of_right_ne_nil _ (List.cons_ne_nil _ _)

/-- An array of the documents themselves. -/
inductive Schema.Holds (schema : Schema) : ArrayNode → Prop
  | reached {names : List String} {f : Field} (reaches : Reaches schema.fields names f) :
      Schema.Holds schema ⟨[], ⟨names, names⟩, f⟩

/-- An array in the elements of another one: among their members, or as the element itself. Nothing
leads to the latter inside the text of an element, and it goes by the name of the array around it. -/
inductive ArrayNode.Holds (m : ArrayNode) : ArrayNode → Prop
  | member {names : List String} {f : Field}
      (reaches : Reaches m.field.arrayElement.members names f) :
      ArrayNode.Holds m ⟨m.around ++ [m.site], ⟨m.site.keyPath ++ names, names⟩, f⟩
  | element (isArray : m.field.arrayElement.type = .known .array) :
      ArrayNode.Holds m ⟨m.around ++ [m.site], ⟨m.site.keyPath ++ [m.field.name.shown], []⟩,
        { m.field.arrayElement with name := m.field.name }⟩

private theorem reaches_of_places (all : List Field) (path jsonPath : List String) :
    (∀ (f : Field) (root names : List String) (earlier : List LooseText), Reaches all names f →
      ∀ p ∈ f.places root (path ++ names) (jsonPath ++ names) earlier, ∃ names,
        Reaches all names p.field ∧ p.path = path ++ names ∧ p.jsonPath = jsonPath ++ names) ∧
    ∀ (fields : List Field) (root names : List String) (earlier : List LooseText),
      (∀ f ∈ fields, Reaches all (names ++ [f.name.shown]) f) →
      ∀ p ∈ placesIn root (path ++ names) (jsonPath ++ names) earlier fields, ∃ names,
        Reaches all names p.field ∧ p.path = path ++ names ∧ p.jsonPath = jsonPath ++ names := by
  apply Field.induction_members
  case node =>
    intro f members root names earlier reaches p inside
    rw [Field.places_eq] at inside
    rcases List.mem_cons.mp inside with rfl | inside
    · exact ⟨names, reaches, rfl, rfl⟩
    · exact members root names [] (fun g declared => .member reaches declared) p inside
  case nil => exact fun _ _ _ _ p inside => absurd inside List.not_mem_nil
  case cons =>
    intro f rest first others root names earlier reaches p inside
    rw [placesIn] at inside
    rcases List.mem_append.mp inside with inside | inside
    · rw [List.append_assoc, List.append_assoc] at inside
      exact first _ _ earlier (reaches f List.mem_cons_self) p inside
    · exact others root names _ (fun g member => reaches g (List.mem_cons_of_mem _ member)) p inside

/-- The places of a list of fields are what its fields hold, at their names. -/
theorem reaches_of_placesIn {root path jsonPath : List String} {earlier : List LooseText}
    {fields : List Field} {p : FieldPlace} (inside : p ∈ placesIn root path jsonPath earlier fields) :
    ∃ names, Reaches fields names p.field ∧ p.path = path ++ names ∧ p.jsonPath = jsonPath ++ names := by
  have top := (reaches_of_places fields path jsonPath).2 fields root [] earlier
    (fun f declared => .listed declared) p
  rw [List.append_nil, List.append_nil] at top
  exact top inside

theorem ArrayNode.isArray_of_inner {m n : ArrayNode} (inside : n ∈ m.inner) :
    n.field.type = .known .array := by
  obtain ⟨p, among, rfl⟩ := List.mem_map.mp inside
  exact Field.isArray_iff.mp (List.mem_filter.mp among).2

/-- The arrays that the view of an array splits off are those that its elements hold. -/
theorem ArrayNode.holds_of_inner {m n : ArrayNode} (inside : n ∈ m.inner) : m.Holds n := by
  have isArray := isArray_of_inner inside
  obtain ⟨p, among, rfl⟩ := List.mem_map.mp inside
  have place := (List.mem_filter.mp among).1
  unfold ArrayNode.places Field.elementPlaces at place
  by_cases isMap : m.field.arrayElement.isMap = true
  · rw [if_pos isMap] at place
    obtain ⟨names, reaches, path, jsonPath⟩ := reaches_of_placesIn place
    rw [List.nil_append] at path jsonPath
    unfold FieldPlace.node
    rw [path, jsonPath]
    exact .member reaches
  · rw [if_neg isMap] at place
    obtain rfl := List.mem_singleton.mp place
    exact .element isArray

private theorem arrays_members_le (f : Field) : arraysIn f.members ≤ f.arrays := by
  unfold Field.members
  split
  · exact arraysIn_getD_le f
  · exact Nat.zero_le _

private theorem arrays_of_places :
    (∀ (f : Field) (root path jsonPath : List String) (earlier : List LooseText),
      ∀ p ∈ f.places root path jsonPath earlier, p.field.arrays ≤ f.arrays) ∧
    ∀ (fields : List Field) (root path jsonPath : List String) (earlier : List LooseText),
      ∀ p ∈ placesIn root path jsonPath earlier fields, p.field.arrays ≤ arraysIn fields := by
  apply Field.induction_members
  case node =>
    intro f members root path jsonPath earlier p inside
    rw [Field.places_eq] at inside
    rcases List.mem_cons.mp inside with rfl | inside
    · exact Nat.le_refl _
    · exact Nat.le_trans (members _ _ _ _ p inside) (arrays_members_le f)
  case nil => exact fun _ _ _ _ p inside => absurd inside List.not_mem_nil
  case cons =>
    intro f rest first others root path jsonPath earlier p inside
    rw [placesIn] at inside
    rw [arraysIn]
    rcases List.mem_append.mp inside with inside | inside
    · have bound := first _ _ _ _ p inside
      omega
    · have bound := others _ _ _ _ p inside
      omega

/-- An array holds fewer arrays than it has below it together with itself. -/
private theorem ArrayNode.arrays_inner_lt {m n : ArrayNode} (isArray : m.field.type = .known .array)
    (inside : n ∈ m.inner) : n.field.arrays < m.field.arrays := by
  obtain ⟨p, among, rfl⟩ := List.mem_map.mp inside
  have place := (List.mem_filter.mp among).1
  have below := arrayElement_arrays_lt m.field isArray
  change p.field.arrays < m.field.arrays
  unfold ArrayNode.places Field.elementPlaces at place
  split at place
  · have bound := arrays_of_places.2 _ _ _ _ _ p place
    have listed := arrays_members_le m.field.arrayElement
    omega
  · rw [List.mem_singleton.mp place, arrays_withName]
    exact below

/-- What passes on from an array to those that it holds passes on to all arrays inside it. -/
private theorem ArrayNode.forall_mem_all {motive : ArrayNode → Prop} {n : ArrayNode}
    (isArray : n.field.type = .known .array) (start : motive n)
    (step : ∀ m ∈ n.all, motive m → ∀ k ∈ m.inner, motive k) : ∀ k ∈ n.all, motive k := by
  intro k among
  rw [all_eq isArray] at among step
  rcases List.mem_cons.mp among with rfl | among
  · exact start
  · obtain ⟨m, inside, below⟩ := List.mem_flatMap.mp among
    have smaller := arrays_inner_lt isArray inside
    refine forall_mem_all (isArray_of_inner inside) (step n List.mem_cons_self start m inside) ?_ k below
    intro other member
    exact step other (List.mem_cons_of_mem _ (List.mem_flatMap.mpr ⟨m, inside, member⟩))
  termination_by n.field.arrays

/-- What holds of the arrays in the documents, and passes on from an array to those that it holds,
holds of all arrays of a schema. -/
theorem Schema.arrayNodes_induction {schema : Schema} {motive : ArrayNode → Prop}
    (document : ∀ n, schema.Holds n → motive n)
    (inside : ∀ m ∈ schema.arrayNodes, motive m → ∀ n, m.Holds n → motive n) :
    ∀ n ∈ schema.arrayNodes, motive n := by
  intro n listed
  have whole := listed
  rw [arrayNodes_eq_top] at listed
  obtain ⟨top, among, below⟩ := List.mem_flatMap.mp listed
  have member : top.all ⊆ schema.arrayNodes := by
    intro m deeper
    rw [arrayNodes_eq_top]
    exact List.mem_flatMap.mpr ⟨top, among, deeper⟩
  obtain ⟨p, place, rfl⟩ := List.mem_map.mp among
  obtain ⟨place, isArray⟩ := List.mem_filter.mp place
  obtain ⟨names, reaches, path, jsonPath⟩ := reaches_of_placesIn place
  refine ArrayNode.forall_mem_all (Field.isArray_iff.mp isArray) (document _ ?_) ?_ n below
  · unfold FieldPlace.node
    rw [path, jsonPath]
    exact .reached reaches
  · intro m deeper known k held
    exact inside m (member deeper) known k (ArrayNode.holds_of_inner held)

end ChangelogViews
