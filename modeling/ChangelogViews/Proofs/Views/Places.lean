import ChangelogViews.Views.Children

/-!
# Places

A view is compiled from a list of fields and from the members of its maps, however deep they lie. Each of
these fields has a place in the view, and the places are known before anything is checked. Flattening is a
walk over them in which every place adds its own steps (`flatten_eq_walk`).
-/

namespace ChangelogViews

/-- A field where a view reaches it. `root` leads there from the fields of the schema, `path` from
those of the view, and `jsonPath` inside the JSON text of the view. The siblings declared before it
are named `earlier`. -/
structure FieldPlace where
  root : List String
  path : List String
  jsonPath : List String
  earlier : List LooseText
  field : Field

mutual

/-- The place of a field, followed by those of its members if it is a map. -/
def Field.places (root path jsonPath : List String) (earlier : List LooseText) :
    Field → List FieldPlace
  | ⟨name, type, description, fields, element⟩ =>
    ⟨root, path, jsonPath, earlier, ⟨name, type, description, fields, element⟩⟩ ::
      match type, fields with
      | .known .map, some fields => placesIn root path jsonPath [] fields
      | _, _ => []

/-- The places of a list of fields, where the names before them are `earlier`. -/
def placesIn (root path jsonPath : List String) (earlier : List LooseText) :
    List Field → List FieldPlace
  | [] => []
  | f :: rest =>
    f.places (root ++ [f.name.shown]) (path ++ [f.name.shown]) (jsonPath ++ [f.name.shown]) earlier ++
      placesIn root path jsonPath (f.name :: earlier) rest

end

/-- The fields that a map lists. Other fields have no members. -/
def Field.members (f : Field) : List Field := if f.isMap then f.fields.getD [] else []

theorem Field.members_eq_nil {f : Field} (noMap : f.type ≠ .known .map) : f.members = [] :=
  if_neg (mt Field.isMap_iff.mp noMap)

/-- The places of a view are reached through the members of maps alone. -/
theorem Field.induction_members {motive : Field → Prop} {each : List Field → Prop}
    (node : ∀ f, each f.members → motive f) (nil : each [])
    (cons : ∀ f rest, motive f → each rest → each (f :: rest)) :
    (∀ f, motive f) ∧ ∀ fields, each fields := by
  refine Field.induction ?_ nil cons
  intro name type description fields element below _
  apply node
  unfold Field.members
  split
  · cases fields with
    | none => exact nil
    | some members => exact below members rfl
  · exact nil

/-- A field comes before its members, whatever it is. -/
theorem Field.places_eq (root path jsonPath : List String) (earlier : List LooseText) (f : Field) :
    f.places root path jsonPath earlier =
      ⟨root, path, jsonPath, earlier, f⟩ :: placesIn root path jsonPath [] f.members := by
  obtain ⟨name, type, description, fields, element⟩ := f
  unfold Field.places Field.members Field.isMap
  congr 1
  split
  · rfl
  · next plain =>
    split
    · next isMap =>
      cases fields with
      | none => rfl
      | some members => exact absurd rfl (plain members (by simpa using isMap))
    · rfl

/-- What a place adds to its view by itself. The members of a map have places of their own. -/
def FieldPlace.steps (d : Sql.Dialect) (source : String) (p : FieldPlace) : List Step :=
  if p.earlier.contains p.field.name then
    [.fail (.atField (.duplicateField p.field.name) (dotted p.path))]
  else if !NameRule.identifier.accepts p.field.name.shown then
    [.fail (.atField (.badFieldName p.field.name) (dotted p.path))]
  else
    match p.field.type with
    | .known .map =>
      if p.field.element.isSome then [.fail (.atField .mapWithElement (dotted p.path))] else []
    | .known .array =>
      if p.field.element.isSome && p.field.fields.isSome then
        [.fail (.atField .arrayWithBoth (dotted p.path))]
      else [.child (childOf p.field p.path p.jsonPath)]
    | _ => plainSteps d source p.field p.path p.jsonPath

/-- The steps of some places in order. -/
def walk (d : Sql.Dialect) (source : String) (places : List FieldPlace) : List Step :=
  places.flatMap (FieldPlace.steps d source)

/-- Two lists of steps give the same view wherever they are taken. -/
private def SameView (a b : List Step) : Prop := ∀ taken, takeSteps taken a = takeSteps taken b

private theorem sameView_fail (e : ViewError) (a b : List Step) :
    SameView (.fail e :: a) (.fail e :: b) := fun _ => rfl

private theorem sameView_append_left (first : List Step) {a b : List Step} (same : SameView a b) :
    SameView (first ++ a) (first ++ b) := by
  induction first with
  | nil => exact same
  | cons s rest ih =>
    intro taken
    cases s with
    | fail e => rfl
    | child c => simp only [List.cons_append, takeSteps, ih taken]
    | column c => simp only [List.cons_append, takeSteps, ih _]

private theorem sameView_steps (d : Sql.Dialect) (source : String) :
    (∀ (f : Field) (root path jsonPath : List String) (earlier : List LooseText),
      earlier.contains f.name = false → ∀ {a b}, SameView a b →
        SameView (f.steps d source path jsonPath ++ a)
          (walk d source (f.places root path jsonPath earlier) ++ b)) ∧
    ∀ (fields : List Field) (root path jsonPath : List String) (earlier : List LooseText) {a b},
      SameView a b →
        SameView (fieldSteps d source path jsonPath earlier fields ++ a)
          (walk d source (placesIn root path jsonPath earlier fields) ++ b) := by
  apply Field.induction
  case node =>
    intro name type description fields element below _ root path jsonPath earlier fresh a b same
    simp only at fresh
    rw [Field.places_eq, walk, List.flatMap_cons, FieldPlace.steps, List.append_assoc]
    unfold Field.steps
    simp only [fresh, Bool.false_eq_true, if_false]
    by_cases named : NameRule.identifier.accepts name.shown = true
    · simp only [named, Bool.not_true, Bool.false_eq_true, if_false]
      cases type with
      | other _ => exact sameView_append_left _ same
      | known kind =>
        cases kind with
        | map =>
          by_cases inside : element.isSome = true
          · simp only [inside, if_true]
            exact sameView_fail _ _ _
          · simp only [inside, Bool.false_eq_true, if_false, List.nil_append]
            cases fields with
            | none => exact same
            | some members => exact below members rfl root path jsonPath [] same
        | array =>
          by_cases both : (element.isSome && fields.isSome) = true
          · simp only [both, if_true]
            exact sameView_fail _ _ _
          · simp only [both, Bool.false_eq_true, if_false]
            exact sameView_append_left _ same
        | _ => exact sameView_append_left _ same
    · simp only [named, Bool.not_false, if_true]
      exact sameView_fail _ _ _
  case nil => exact fun _ _ _ _ _ _ same => same
  case cons =>
    intro f rest first others root path jsonPath earlier a b same
    rw [fieldSteps, placesIn, walk, List.flatMap_append, List.append_assoc]
    by_cases repeated : earlier.contains f.name = true
    · rw [Field.places_eq, List.flatMap_cons, FieldPlace.steps]
      simp only [repeated, if_true]
      exact sameView_fail _ _ _
    · simp only [repeated, Bool.false_eq_true, if_false, List.append_assoc]
      exact first _ _ _ earlier (by simpa using repeated) (others root path jsonPath _ same)

/-- Flattening a list of fields walks over its places. -/
theorem flatten_eq_walk (d : Sql.Dialect) (source : String) (root path reserved : List String)
    (fields : List Field) :
    flatten d source path reserved fields =
      takeSteps (reservedLabels reserved) (walk d source (placesIn root path path [] fields)) := by
  have nothing : SameView [] [] := fun _ => rfl
  have same := (sameView_steps d source).2 fields root path path [] nothing
  simpa only [List.append_nil, flatten] using same (reservedLabels reserved)

/-- So does adding the steps of one field. -/
theorem elementSteps_eq_walk (root : List String) (d : Sql.Dialect) (source : String)
    (path jsonPath : List String) (taken : List TakenLabel) (f : Field) :
    takeSteps taken (f.steps d source path jsonPath) =
      takeSteps taken (walk d source (f.places root path jsonPath [])) := by
  have nothing : SameView [] [] := fun _ => rfl
  have same := (sameView_steps d source).1 f root path jsonPath [] rfl nothing
  simpa only [List.append_nil] using same taken

/-- The places of the view for the elements of an array. The members of a map lie below the array at
`root`; any other element is the array's own place once more, under its name. -/
def Field.elementPlaces (root : List String) (f : Field) : List FieldPlace :=
  if f.arrayElement.isMap then placesIn root [] [] [] f.arrayElement.members
  else [⟨root, [f.name.shown], [], [], { f.arrayElement with name := f.name }⟩]

/-- Flattening the elements of an array walks over their places. -/
theorem childOf_flatten_eq_walk (d : Sql.Dialect) (source : String) (root path jsonPath : List String)
    (reserved : List String) (f : Field) :
    (childOf f path jsonPath).flatten d source reserved =
      takeSteps (reservedLabels reserved) (walk d source (f.elementPlaces root)) := by
  unfold ChildSchema.flatten Field.elementPlaces childOf Field.members
  by_cases isMap : f.arrayElement.type = .known .map
  · have same := flatten_eq_walk d source root [] reserved (f.arrayElement.fields.getD [])
    simpa only [isMap, Field.isMap, decide_true, if_true, flatten] using same
  · have same := elementSteps_eq_walk root d source [f.name.shown] [] (reservedLabels reserved)
      { f.arrayElement with name := f.name }
    simp only [Field.places_eq, Field.members, Field.isMap, isMap, decide_false, placesIn,
      Bool.false_eq_true, if_false] at same ⊢
    exact same

end ChangelogViews
