import Mathlib.Data.List.Forall2
import ChangelogViews.Proofs.Views.LaidOut
import ChangelogViews.Sql.Dialects

/-!
# Shorthand

An array may leave its element out: it then holds strings, or maps with the fields that it lists. A
schema that writes these elements out, names the elements of its arrays differently, or describes its
fields in other words has the same views, and fails with the same error if it has none
(`compile_rewritten`).
-/

namespace ChangelogViews

/-- A field and another way to write it down. Descriptions are free everywhere, and so is the name of
the element of an array. Shorthand may be written out on any array below. -/
inductive Field.Rewrites : Field → Field → Prop
  | node {name : LooseText} {type : FieldType} {description description' : Option LooseText}
      {fields fields' : Option (List Field)} {element element' : Option Field}
      (below : Option.Rel (List.Forall₂ Field.Rewrites) fields fields')
      (inside : Option.Rel Field.Rewrites element element') :
      Field.Rewrites ⟨name, type, description, fields, element⟩
        ⟨name, type, description', fields', element'⟩
  | renamed {name : LooseText} {description description' : Option LooseText}
      {fields fields' : Option (List Field)} {inner inner' : Field} (own : LooseText)
      (below : Option.Rel (List.Forall₂ Field.Rewrites) fields fields')
      (inside : Field.Rewrites inner inner') :
      Field.Rewrites ⟨name, .known .array, description, fields, some inner⟩
        ⟨name, .known .array, description', fields', some { inner' with name := own }⟩
  | strings {name : LooseText} {description description' words : Option LooseText} (own : LooseText) :
      Field.Rewrites ⟨name, .known .array, description, none, none⟩
        ⟨name, .known .array, description', none, some ⟨own, .known .string, words, none, none⟩⟩
  | maps {name : LooseText} {description description' words : Option LooseText}
      {members members' : List Field} (own : LooseText)
      (below : List.Forall₂ Field.Rewrites members members') :
      Field.Rewrites ⟨name, .known .array, description, some members, none⟩
        ⟨name, .known .array, description', none,
          some ⟨own, .known .map, words, some members', none⟩⟩

/-- A place of a view whose field is written down in another way. -/
inductive FieldPlace.Rewrites : FieldPlace → FieldPlace → Prop
  | atPlace (root path jsonPath : List String) (earlier : List LooseText) {f f' : Field}
      (field : f.Rewrites f') :
      FieldPlace.Rewrites ⟨root, path, jsonPath, earlier, f⟩ ⟨root, path, jsonPath, earlier, f'⟩

/-- An array that is written down in another way. -/
inductive ArrayNode.Rewrites : ArrayNode → ArrayNode → Prop
  | atSite (around : List ArraySite) (site : ArraySite) {f f' : Field} (field : f.Rewrites f') :
      ArrayNode.Rewrites ⟨around, site, f⟩ ⟨around, site, f'⟩

namespace Field

theorem Rewrites.withName {f f' : Field} (rewrites : f.Rewrites f') (name : LooseText) :
    ({ f with name := name } : Field).Rewrites { f' with name := name } := by
  cases rewrites with
  | node below inside => exact .node below inside
  | renamed own below inside => exact .renamed own below inside
  | strings own => exact .strings own
  | maps own below => exact .maps own below

theorem Rewrites.name_eq {f f' : Field} (rewrites : f.Rewrites f') : f'.name = f.name := by
  cases rewrites <;> rfl

theorem Rewrites.type_eq {f f' : Field} (rewrites : f.Rewrites f') : f'.type = f.type := by
  cases rewrites <;> rfl

theorem Rewrites.isMap_eq {f f' : Field} (rewrites : f.Rewrites f') : f'.isMap = f.isMap := by
  rw [isMap, rewrites.type_eq, isMap]

theorem Rewrites.isArray_eq {f f' : Field} (rewrites : f.Rewrites f') : f'.isArray = f.isArray := by
  rw [isArray, rewrites.type_eq, isArray]

theorem Rewrites.members {f f' : Field} (rewrites : f.Rewrites f') :
    List.Forall₂ Rewrites f.members f'.members := by
  cases rewrites with
  | @node _ type _ _ _ _ _ _ below _ =>
    unfold Field.members Field.isMap
    split
    · cases below with
      | none => exact .nil
      | some below => exact below
    · exact .nil
  | renamed _ _ _ => exact .nil
  | strings _ => exact .nil
  | maps _ _ => exact .nil

/-- Whatever way an array is written down, the elements are the same but for the name of the node. -/
theorem Rewrites.arrayElement {f f' : Field} (rewrites : f.Rewrites f') (name : LooseText) :
    ({ f.arrayElement with name := name } : Field).Rewrites { f'.arrayElement with name := name } := by
  cases rewrites with
  | node below inside =>
    cases inside with
    | some inside => exact inside.withName name
    | none =>
      cases below with
      | some below => exact .node (.some below) .none
      | none => exact .node .none .none
  | renamed own _ inside => exact inside.withName name
  | strings own => exact .node .none .none
  | maps own below => exact .node (.some below) .none

end Field

private theorem places_rewritten :
    (∀ (f f' : Field) (root path jsonPath : List String) (earlier : List LooseText), f.Rewrites f' →
      List.Forall₂ FieldPlace.Rewrites (f.places root path jsonPath earlier)
        (f'.places root path jsonPath earlier)) ∧
    ∀ (fields fields' : List Field) (root path jsonPath : List String) (earlier : List LooseText),
      List.Forall₂ Field.Rewrites fields fields' →
      List.Forall₂ FieldPlace.Rewrites (placesIn root path jsonPath earlier fields)
        (placesIn root path jsonPath earlier fields') := by
  apply Field.induction_members
  case node =>
    intro f members f' root path jsonPath earlier rewrites
    rw [Field.places_eq, Field.places_eq]
    exact .cons (.atPlace _ _ _ _ rewrites) (members _ root path jsonPath [] rewrites.members)
  case nil =>
    intro fields' root path jsonPath earlier rewrites
    cases rewrites
    exact .nil
  case cons =>
    intro f rest first others fields' root path jsonPath earlier rewrites
    cases rewrites with
    | cons own later =>
      rw [placesIn, placesIn, own.name_eq]
      exact List.rel_append (first _ _ _ _ earlier own) (others _ root path jsonPath _ later)

/-- The view of the elements of an array has the same places. -/
private theorem elementPlaces_rewritten (root : List String) {f f' : Field}
    (rewrites : f.Rewrites f') :
    List.Forall₂ FieldPlace.Rewrites (f.elementPlaces root) (f'.elementPlaces root) := by
  have element := rewrites.arrayElement f.name
  have kind : f'.arrayElement.isMap = f.arrayElement.isMap := element.isMap_eq
  unfold Field.elementPlaces
  rw [kind, rewrites.name_eq]
  split
  · exact places_rewritten.2 _ _ root [] [] [] element.members
  · exact .cons (.atPlace _ _ _ _ element) .nil

/-- A step that adds to the view itself, or ends it. -/
def Step.isOwn : Step → Bool
  | .child _ => false
  | _ => true

/-- The columns of a view, or why it has none, come from the steps that split nothing off. -/
theorem columns_of_own (taken : List TakenLabel) (steps : List Step) :
    (takeSteps taken steps).map Flat.columns =
      (takeSteps taken (steps.filter Step.isOwn)).map Flat.columns := by
  induction steps generalizing taken with
  | nil => rfl
  | cons s rest ih =>
    cases s with
    | fail e => rfl
    | child c =>
      rw [List.filter_cons_of_neg Bool.false_ne_true, ← ih, takeSteps]
      cases takeSteps taken rest <;> rfl
    | column c =>
      have cons : ∀ steps : List Step, (takeSteps (⟨c.label, some c.name⟩ :: taken) steps >>=
          fun flat => pure { flat with columns := c :: flat.columns }).map Flat.columns =
            ((takeSteps (⟨c.label, some c.name⟩ :: taken) steps).map Flat.columns).map (c :: ·) := by
        intro steps
        cases takeSteps (⟨c.label, some c.name⟩ :: taken) steps <;> rfl
      rw [List.filter_cons_of_pos rfl, takeSteps, takeSteps]
      cases collision taken c with
      | some problem => rfl
      | none => simp only [cons, ← ih]

/-- A rewritten place adds the same to its view. -/
private theorem own_of_place (d : Sql.Dialect) (source : String) {p p' : FieldPlace}
    (rewrites : p.Rewrites p') :
    (p.steps d source).filter Step.isOwn = (p'.steps d source).filter Step.isOwn := by
  cases rewrites with
  | atPlace root path jsonPath earlier field =>
    unfold FieldPlace.steps
    rw [field.name_eq, field.type_eq]
    simp only
    split
    · rfl
    split
    · rfl
    cases field with
    | @node name type _ _ fields fields' element element' below inside =>
      have sameFields : fields'.isSome = fields.isSome := by cases below <;> rfl
      have sameElement : element'.isSome = element.isSome := by cases inside <;> rfl
      simp only [plainSteps, sameFields, sameElement]
      split
      · rfl
      · split <;> rfl
      · rfl
    | @renamed _ _ _ fields fields' _ _ _ below _ =>
      have sameFields : fields'.isSome = fields.isSome := by cases below <;> rfl
      simp only [sameFields, Option.isSome_some]
      split <;> rfl
    | strings _ => rfl
    | maps _ _ => rfl

private theorem own_of_walk (d : Sql.Dialect) (source : String) {places places' : List FieldPlace}
    (rewrites : List.Forall₂ FieldPlace.Rewrites places places') :
    (walk d source places).filter Step.isOwn = (walk d source places').filter Step.isOwn := by
  induction rewrites with
  | nil => rfl
  | cons own _ ih =>
    simp only [walk, List.flatMap_cons, List.filter_append] at ih ⊢
    rw [own_of_place d source own, ih]

private theorem columns_rewritten (d : Sql.Dialect) (source : String) (taken : List TakenLabel)
    {places places' : List FieldPlace}
    (rewrites : List.Forall₂ FieldPlace.Rewrites places places') :
    (takeSteps taken (walk d source places')).map Flat.columns =
      (takeSteps taken (walk d source places)).map Flat.columns := by
  rw [columns_of_own, ← own_of_walk d source rewrites, ← columns_of_own]

private theorem arrayNodes_rewritten :
    (∀ (f f' : Field) (around : List ArraySite) (name : LooseText) (keyPath jsonPath : List String),
      f.Rewrites f' →
      List.Forall₂ ArrayNode.Rewrites (f.arrayNodes around name keyPath jsonPath)
        (f'.arrayNodes around name keyPath jsonPath)) ∧
    ∀ (fields fields' : List Field) (around : List ArraySite) (keyPath jsonPath : List String),
      List.Forall₂ Field.Rewrites fields fields' →
      List.Forall₂ ArrayNode.Rewrites (arrayNodesIn around keyPath jsonPath fields)
        (arrayNodesIn around keyPath jsonPath fields') := by
  -- on the first of the two trees; how the second is written decides between the cases of a node
  apply Field.induction
  case node =>
    intro name type description fields element members inner f' around known keyPath jsonPath rewrites
    cases rewrites with
    | node below inside =>
      unfold Field.arrayNodes
      split
      · cases below with
        | none => exact .nil
        | some below => exact members _ rfl _ around keyPath jsonPath below
      · refine .cons (.atSite _ _ (.node below inside)) ?_
        cases inside with
        | some inside =>
          simp only [inside.isArray_eq]
          exact inner _ rfl _ _ known _ [] inside
        | none =>
          cases below with
          | none => exact .nil
          | some below => exact members _ rfl _ _ keyPath [] below
      · exact .nil
    | renamed own below inside =>
      unfold Field.arrayNodes
      refine .cons (.atSite _ _ (.renamed own below inside)) ?_
      have kind : ∀ f : Field, ({ f with name := own } : Field).isArray = f.isArray := fun _ => rfl
      simp only [Field.arrayNodes_withName, kind, inside.isArray_eq]
      exact inner _ rfl _ _ known _ [] inside
    | strings own =>
      unfold Field.arrayNodes
      exact .cons (.atSite _ _ (.strings own)) .nil
    | maps own below =>
      unfold Field.arrayNodes
      exact .cons (.atSite _ _ (.maps own below)) (members _ rfl _ _ keyPath [] below)
  case nil =>
    intro fields' around keyPath jsonPath rewrites
    cases rewrites
    exact .nil
  case cons =>
    intro f rest first others fields' around keyPath jsonPath rewrites
    cases rewrites with
    | cons own later =>
      rw [arrayNodesIn, arrayNodesIn, own.name_eq]
      exact List.rel_append (first _ _ _ _ _ own) (others _ around keyPath jsonPath later)

/-- The columns of the view of an array, or why it has none. -/
private theorem nodeView_eq (site : ChildSite) (source : String) (n : ArrayNode) :
    site.nodeView source n =
      match (site.nodeFlat source n).map Flat.columns with
      | .error e => .error (.views (ChildSite.anchored n.anchor e))
      | .ok columns => orSqlStop (site.nodeQuery source n columns) := by
  unfold ChildSite.nodeView
  cases site.nodeFlat source n <;> rfl

private theorem nodeView_rewritten (site : ChildSite) (source : String) {n n' : ArrayNode}
    (rewrites : n.Rewrites n') : site.nodeView source n' = site.nodeView source n := by
  rw [nodeView_eq, nodeView_eq]
  cases rewrites with
  | @atSite around own f f' field =>
    have columns := columns_rewritten site.dialect (site.insideNode source ⟨around, own, f⟩).source
      (reservedLabels (site.nodeReserved source ⟨around, own, f⟩))
      (elementPlaces_rewritten own.keyPath field)
    have anchor : ArrayNode.anchor ⟨around, own, f'⟩ = ArrayNode.anchor ⟨around, own, f⟩ := by
      have kind : f'.arrayElement.isMap = f.arrayElement.isMap := (field.arrayElement f.name).isMap_eq
      rw [ArrayNode.anchor, kind, ArrayNode.anchor]
    rw [anchor]
    change (site.nodeFlat source ⟨around, own, f'⟩).map Flat.columns =
      (site.nodeFlat source ⟨around, own, f⟩).map Flat.columns at columns
    rw [columns]
    rfl

private theorem mapM_congr {α β ε : Type} {f : α → Except ε β} {related : α → α → Prop}
    (each : ∀ x y, related x y → f y = f x) {xs ys : List α} (all : List.Forall₂ related xs ys) :
    ys.mapM f = xs.mapM f := by
  induction all with
  | nil => rfl
  | cons own _ ih => rw [List.mapM_cons, List.mapM_cons, each _ _ own, ih]

namespace Target

private theorem bind_columns {α : Type} {x y : Except ViewError Flat}
    (same : x.map Flat.columns = y.map Flat.columns) (next : List Column → Except Failure α) :
    (orStop x >>= fun flat => next flat.columns) = orStop y >>= fun flat => next flat.columns := by
  have columns : ∀ x : Except ViewError Flat, (orStop x >>= fun flat => next flat.columns) =
      orStop (x.map Flat.columns) >>= next := by
    intro x
    cases x <;> rfl
  rw [columns, columns, same]

/-- A schema that is written down in another way has the same views, or fails with the same error. -/
theorem compile_rewritten {schema schema' : Schema}
    (rewrites : List.Forall₂ Field.Rewrites schema.fields schema'.fields) (t : Target)
    (dataset : String) (first schemaName changelog : Option String) :
    t.compile dataset first schemaName schema' changelog =
      t.compile dataset first schemaName schema changelog := by
  have top : ∀ spelling, (t.topFlat spelling schema').map Flat.columns =
      (t.topFlat spelling schema).map Flat.columns := by
    intro spelling
    rw [topFlat_eq_walk, topFlat_eq_walk]
    exact columns_rewritten _ _ _ (places_rewritten.2 _ _ [] [] [] [] rewrites)
  have arrays : ∀ spelling firstName name, t.arrayViews spelling dataset firstName name schema' =
      t.arrayViews spelling dataset firstName name schema := by
    intro spelling firstName name
    exact mapM_congr (fun _ _ own => nodeView_rewritten _ _ own) (arrayNodes_rewritten.2 _ _ [] [] [] rewrites)
  have laid : t.layOut dataset first schemaName schema' changelog =
      t.layOut dataset first schemaName schema changelog := by
    rw [layOut_eq, layOut_eq]
    refine congrArg (orStop (properNames first schemaName) >>= ·) (funext fun names => ?_)
    refine congrArg (orSqlStop t.dialect.spelled >>= ·) (funext fun spelling => ?_)
    rw [arrays]
    exact bind_columns (top spelling) fun columns => _ >>= fun children =>
      withoutRepeats (t.assembled spelling dataset names.1 names.2 changelog columns children)
  rw [compile, laid, compile]

/-- Orders with an array of maps, which hold an array of strings, and with arrays inside an array. -/
def orders : Schema :=
  let tags := Field.ofKind (.ofString "tags") .array
  let items := { Field.ofKind (.ofString "items") .array with
    fields := some [tags, Field.ofKind (.ofString "price") .number] }
  let grid := { Field.ofKind (.ofString "grid") .array with
    element := some (Field.ofKind (.ofString "row") .array) }
  ⟨[items, grid]⟩

/-- The same orders, with an element on every array and a word on the prices. -/
def ordersWritten : Schema :=
  let price := { Field.ofKind (.ofString "price") .number with description := some (.ofString "net") }
  let tags := { Field.ofKind (.ofString "tags") .array with
    element := some (Field.ofKind (.ofString "tag") .string) }
  let item := { Field.ofKind (.ofString "item") .map with fields := some [tags, price] }
  let row := { Field.ofKind (.ofString "line") .array with
    element := some (Field.ofKind (.ofString "cell") .string) }
  ⟨[{ Field.ofKind (.ofString "items") .array with element := some item },
    { Field.ofKind (.ofString "grid") .array with element := some row }]⟩

theorem orders_written_out :
    List.Forall₂ Field.Rewrites orders.fields ordersWritten.fields ∧
    ∃ views, compile ⟨Sql.BigQuery.dialect, "p", .standard⟩ "d" (some "f") (some "s") ordersWritten
        none = .ok views ∧
      compile ⟨Sql.BigQuery.dialect, "p", .standard⟩ "d" (some "f") (some "s") orders none =
        .ok views ∧
      views.children.map View.name = ["f_schema_s_latest_items", "f_schema_s_latest_items_tags",
        "f_schema_s_latest_grid", "f_schema_s_latest_grid_grid"] := by
  have rewrites : List.Forall₂ Field.Rewrites orders.fields ordersWritten.fields := by
    refine .cons (.maps _ (.cons (.strings _) (.cons (.node .none .none) .nil))) (.cons ?_ .nil)
    exact .renamed (.ofString "line") .none (.strings _)
  have compiled : ∃ views, compile ⟨Sql.BigQuery.dialect, "p", .standard⟩ "d" (some "f") (some "s")
      orders none = .ok views ∧ views.children.map View.name = ["f_schema_s_latest_items",
        "f_schema_s_latest_items_tags", "f_schema_s_latest_grid", "f_schema_s_latest_grid_grid"] := by
    unfold compile
    rw [layOut_eq]
    exact ⟨_, rfl, by decide⟩
  obtain ⟨views, done, names⟩ := compiled
  refine ⟨rewrites, views, ?_, done, names⟩
  exact (compile_rewritten rewrites _ _ _ _ _).trans done

end Target
end ChangelogViews
