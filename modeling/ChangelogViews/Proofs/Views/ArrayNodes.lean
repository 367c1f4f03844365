import ChangelogViews.Proofs.Views.Keys

/-!
# Array nodes

The arrays of a schema, listed from the declared tree alone: an array comes before those inside its
elements, and each has a key path. The arrays that a view splits off are the first of what is listed
(`arrayNodes_eq_top`), and so again inside each of them (`ArrayNode.all_eq`).
-/

namespace ChangelogViews

/-- Where an array lies: its names from the root of the schema, and its path in the JSON text of the
view around it. -/
structure ArraySite where
  keyPath : List String
  jsonPath : List String

/-- An array of the tree, with the arrays around it from the outermost on. The element of an array is
known by the name of that array. -/
structure ArrayNode where
  around : List ArraySite
  site : ArraySite
  field : Field

mutual

/-- The arrays in a field that is known as `name`. A map is entered through its fields, and an array
through its element: a map there lists fields below the key path of the array, another array repeats
its last name. -/
def Field.arrayNodes (around : List ArraySite) (name : LooseText) (keyPath jsonPath : List String) :
    Field → List ArrayNode
  | ⟨_, type, description, fields, element⟩ =>
    match type with
    | .known .map =>
      match fields with
      | some fields => arrayNodesIn around keyPath jsonPath fields
      | none => []
    | .known .array =>
      ⟨around, ⟨keyPath, jsonPath⟩, ⟨name, type, description, fields, element⟩⟩ ::
        match element with
        | some element =>
          element.arrayNodes (around ++ [⟨keyPath, jsonPath⟩]) name
            (if element.isArray then keyPath ++ [name.shown] else keyPath) []
        | none =>
          match fields with
          | some fields => arrayNodesIn (around ++ [⟨keyPath, jsonPath⟩]) keyPath [] fields
          | none => []
    | _ => []

/-- The arrays in some fields below a path. -/
def arrayNodesIn (around : List ArraySite) (keyPath jsonPath : List String) :
    List Field → List ArrayNode
  | [] => []
  | f :: rest =>
    f.arrayNodes around f.name (keyPath ++ [f.name.shown]) (jsonPath ++ [f.name.shown]) ++
      arrayNodesIn around keyPath jsonPath rest

end

/-- The arrays of a schema in depth-first order. -/
def Schema.arrayNodes (schema : Schema) : List ArrayNode := arrayNodesIn [] [] [] schema.fields

namespace Field

theorem arrayNodes_map (around : List ArraySite) (name : LooseText) (keyPath jsonPath : List String)
    {f : Field} (isMap : f.type = .known .map) :
    f.arrayNodes around name keyPath jsonPath = arrayNodesIn around keyPath jsonPath f.members := by
  obtain ⟨own, type, description, fields, element⟩ := f
  simp only at isMap
  subst isMap
  unfold Field.arrayNodes
  cases fields with
  | none => rfl
  | some fields => rfl

theorem arrayNodes_plain (around : List ArraySite) (name : LooseText)
    (keyPath jsonPath : List String) {f : Field} (noMap : f.type ≠ .known .map)
    (noArray : f.type ≠ .known .array) : f.arrayNodes around name keyPath jsonPath = [] := by
  obtain ⟨own, type, description, fields, element⟩ := f
  unfold Field.arrayNodes
  split
  · exact absurd rfl noMap
  · exact absurd rfl noArray
  · rfl

/-- The arrays inside the elements of an array. -/
def innerNodes (around : List ArraySite) (keyPath : List String) (f : Field) : List ArrayNode :=
  match f.element, f.fields with
  | some element, _ =>
    element.arrayNodes around f.name
      (if element.isArray then keyPath ++ [f.name.shown] else keyPath) []
  | none, some fields => arrayNodesIn around keyPath [] fields
  | none, none => []

theorem arrayNodes_array (around : List ArraySite) (name : LooseText)
    (keyPath jsonPath : List String) {f : Field} (isArray : f.type = .known .array) :
    f.arrayNodes around name keyPath jsonPath =
      ⟨around, ⟨keyPath, jsonPath⟩, { f with name := name }⟩ ::
        innerNodes (around ++ [⟨keyPath, jsonPath⟩]) keyPath { f with name := name } := by
  obtain ⟨own, type, description, fields, element⟩ := f
  simp only at isArray
  subst isArray
  unfold Field.arrayNodes innerNodes
  cases element with
  | some element => rfl
  | none =>
    cases fields with
    | none => rfl
    | some fields => rfl

private theorem withName_self (f : Field) :
    ⟨f.name, f.type, f.description, f.fields, f.element⟩ = f := by
  cases f
  rfl

/-- The arrays in a field do not depend on the name that it declares. -/
theorem arrayNodes_withName (around : List ArraySite) (name own : LooseText)
    (keyPath jsonPath : List String) (f : Field) :
    ({ f with name := own } : Field).arrayNodes around name keyPath jsonPath =
      f.arrayNodes around name keyPath jsonPath := by
  obtain ⟨_, type, description, fields, element⟩ := f
  unfold Field.arrayNodes
  rfl

end Field

/-- The array at a place of a view whose own array has the key path `outer`. -/
def FieldPlace.node (around : List ArraySite) (outer : List String) (p : FieldPlace) : ArrayNode :=
  ⟨around, ⟨outer ++ p.path, p.jsonPath⟩, p.field⟩

namespace ArrayNode

/-- The array and all arrays inside its elements. -/
def all (n : ArrayNode) : List ArrayNode :=
  n.field.arrayNodes n.around n.field.name n.site.keyPath n.site.jsonPath

/-- The places of the view for its elements. -/
def places (n : ArrayNode) : List FieldPlace := n.field.elementPlaces n.site.keyPath

/-- The arrays that the view for its elements splits off. -/
def inner (n : ArrayNode) : List ArrayNode :=
  (n.places.filter (·.field.isArray)).map
    (FieldPlace.node (n.around ++ [n.site]) n.site.keyPath)

end ArrayNode

private theorem node_flatMap_cons (around : List ArraySite) (outer : List String) (p : FieldPlace)
    (rest : List FieldPlace) :
    ((((p :: rest).filter (·.field.isArray)).map (FieldPlace.node around outer)).flatMap
        ArrayNode.all) =
      (if p.field.isArray then
        p.field.arrayNodes around p.field.name (outer ++ p.path) p.jsonPath else []) ++
        ((rest.filter (·.field.isArray)).map (FieldPlace.node around outer)).flatMap
          ArrayNode.all := by
  rw [List.filter_cons]
  split
  · rfl
  · rfl

private theorem arrayNodes_eq_places :
    (∀ (f : Field) (around : List ArraySite) (outer root path jsonPath : List String)
      (earlier : List LooseText),
      f.arrayNodes around f.name (outer ++ path) jsonPath =
        (((f.places root path jsonPath earlier).filter (·.field.isArray)).map
          (FieldPlace.node around outer)).flatMap ArrayNode.all) ∧
    ∀ (fields : List Field) (around : List ArraySite) (outer root path jsonPath : List String)
      (earlier : List LooseText),
      arrayNodesIn around (outer ++ path) jsonPath fields =
        (((placesIn root path jsonPath earlier fields).filter (·.field.isArray)).map
          (FieldPlace.node around outer)).flatMap ArrayNode.all := by
  apply Field.induction_members
  case node =>
    intro f members around outer root path jsonPath earlier
    rw [Field.places_eq, node_flatMap_cons]
    by_cases isMap : f.type = .known .map
    · have noArray : f.isArray = false := by simp [Field.isArray, isMap]
      rw [Field.arrayNodes_map _ _ _ _ isMap, members around outer root path jsonPath [], noArray]
      rfl
    · have none : f.members = [] := Field.members_eq_nil isMap
      rw [none, placesIn]
      by_cases isArray : f.type = .known .array
      · have yes : f.isArray = true := Field.isArray_iff.mpr isArray
        rw [if_pos yes]
        exact (List.append_nil _).symm
      · have no : ¬ f.isArray = true := mt Field.isArray_iff.mp isArray
        rw [if_neg no, Field.arrayNodes_plain _ _ _ _ isMap isArray]
        rfl
  case nil => exact fun _ _ _ _ _ _ => rfl
  case cons =>
    intro f rest first others around outer root path jsonPath earlier
    rw [placesIn, List.filter_append, List.map_append, List.flatMap_append, arrayNodesIn,
      List.append_assoc, first around outer (root ++ [f.name.shown]) _ _ earlier,
      others around outer root path jsonPath (f.name :: earlier)]

/-- The arrays of a schema are those that its view splits off, each followed by the arrays inside. -/
theorem arrayNodes_eq_top (schema : Schema) :
    schema.arrayNodes =
      (((placesIn [] [] [] [] schema.fields).filter (·.field.isArray)).map
        (FieldPlace.node [] [])).flatMap ArrayNode.all :=
  arrayNodes_eq_places.2 schema.fields [] [] [] [] [] []

/-- An array is listed before the arrays inside, which are those that its view splits off, each followed by
the arrays inside it. -/
theorem ArrayNode.all_eq {n : ArrayNode} (isArray : n.field.type = .known .array) :
    n.all = n :: n.inner.flatMap ArrayNode.all := by
  rw [all, Field.arrayNodes_array _ _ _ _ isArray]
  rw [Field.withName_self]
  congr 1
  unfold inner places Field.elementPlaces Field.innerNodes Field.arrayElement
  have listed := fun fields => arrayNodes_eq_places.2 fields (n.around ++ [n.site]) n.site.keyPath
    n.site.keyPath [] [] []
  rw [List.append_nil] at listed
  cases element : n.field.element with
  | some e =>
    simp only
    by_cases isMap : e.type = .known .map
    · have yes : e.isMap = true := Field.isMap_iff.mpr isMap
      have no : e.isArray = false := by simp [Field.isArray, isMap]
      rw [if_pos yes, no, Field.arrayNodes_map _ _ _ _ isMap]
      exact listed e.members
    · have no : ¬ e.isMap = true := mt Field.isMap_iff.mp isMap
      rw [if_neg no, node_flatMap_cons]
      have renamed : ({ e with name := n.field.name } : Field).isArray = e.isArray := rfl
      dsimp only
      rw [renamed, Field.arrayNodes_withName]
      by_cases inside : e.type = .known .array
      · have yes : e.isArray = true := Field.isArray_iff.mpr inside
        rw [if_pos yes, if_pos yes]
        exact (List.append_nil _).symm
      · have no : ¬ e.isArray = true := mt Field.isArray_iff.mp inside
        rw [if_neg no, if_neg no, Field.arrayNodes_plain _ _ _ _ isMap inside]
        rfl
  | none =>
    cases n.field.fields with
    | some fields => exact listed fields
    | none => rfl

end ChangelogViews
