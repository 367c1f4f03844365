import ChangelogViews.Naming
import ChangelogViews.Sql.ViewQuery

/-!
# Flat columns

Flattening of a field tree into ordered view columns. Maps are expanded inline, geopoints give two
columns, and arrays are split off as child schemas.

Walking through the fields gives a list of steps, in the order of declaration. The steps are then
taken one by one against the aliases that are in use already; the first failure ends both.
-/

namespace ChangelogViews

/-- The schema of a `ChildSchema`: the fields of a map, or with `element_at_root` a single field. -/
inductive ElementContent where
  | members (fields : List Field)
  | atRoot (element : Field)
  deriving Inhabited, Repr

def ElementContent.fields : ElementContent → List Field
  | .members fields => fields
  | .atRoot element => [element]

/-- `ChildSchema`: `path` is the field path relative to the fields that declare the array, and `jsonPath`
locates the array in their JSON source. It is empty if the array is itself the element of another. -/
structure ChildSchema where
  path : List String
  jsonPath : List String
  content : ElementContent
  deriving Inhabited, Repr

/-- `_dotted`, the dotted path of a field. -/
def dotted (path : List String) : String := ".".intercalate path

/-- The alias at a path. -/
def joined (path : List String) : String := "_".intercalate path

/-- The dotted path of the array, the key of a child among its siblings. -/
def ChildSchema.key (child : ChildSchema) : String := dotted child.path

/-- The children by key once `child` is set before `later`. A later child with the same key stands in its
place. -/
def ChildSchema.before (child : ChildSchema) (later : List ChildSchema) : List ChildSchema :=
  (later.find? (·.key == child.key)).getD child :: later.filter (·.key != child.key)

/-- `FlattenResult`. -/
structure Flat where
  columns : List Column
  children : List ChildSchema
  deriving Inhabited, Repr

/-- What a field appends to the result of the fields around it. -/
inductive Step where
  | fail (error : ViewError)
  | column (column : Column)
  | child (child : ChildSchema)

/-- `child_schema_for`. An element that is no map becomes one field named after the array. -/
def childOf (f : Field) (path jsonPath : List String) : ChildSchema :=
  let element := f.arrayElement
  match element.type with
  | .known .map => ⟨path, jsonPath, .members (element.fields.getD [])⟩
  | _ => ⟨path, jsonPath, .atRoot { element with name := f.name }⟩

/-- The `Column` that a rule gives for the field at a path. -/
def columnOf (source : String) (path jsonPath : List String) (rule : Sql.ColumnRule) : Column :=
  let full := path ++ rule.suffix
  ⟨dotted full, joined full, rule.template.render source (Sql.jsonPath jsonPath), rule.sqlType⟩

def plainSteps (d : Sql.Dialect) (source : String) (f : Field) (path jsonPath : List String) :
    List Step :=
  if f.fields.isSome || f.element.isSome then
    [.fail (.atField (.nestedBelow f.type.name) (dotted path))]
  else
    match d.resolve (.ofType f.type) with
    | .error e => [.fail (e.addContext ⟨none, none, some (dotted path)⟩)]
    | .ok rules => rules.map fun rule => .column (columnOf source path jsonPath rule)

mutual

/-- `visit_field`. The path ends in the name of the field unless the field is an element at the root. -/
def Field.steps (d : Sql.Dialect) (source : String) (path jsonPath : List String) :
    Field → List Step
  | ⟨name, type, description, fields, element⟩ =>
    if !NameRule.identifier.accepts name.shown then
      [.fail (.atField (.badFieldName name) (dotted path))]
    else
      match type, fields with
      | .known .map, fields =>
        if element.isSome then [.fail (.atField .mapWithElement (dotted path))]
        else
          match fields with
          | some fields => fieldSteps d source path jsonPath [] fields
          | none => []
      | .known .array, fields =>
        if element.isSome && fields.isSome then
          [.fail (.atField .arrayWithBoth (dotted path))]
        else [.child (childOf ⟨name, type, description, fields, element⟩ path jsonPath)]
      | type, fields => plainSteps d source ⟨name, type, description, fields, element⟩ path jsonPath

/-- `visit_fields` below a path. The names before them are `seen`. -/
def fieldSteps (d : Sql.Dialect) (source : String) (path jsonPath : List String)
    (seen : List LooseText) : List Field → List Step
  | [] => []
  | f :: rest =>
    if seen.contains f.name then
      [.fail (.atField (.duplicateField f.name) (dotted (path ++ [f.name.shown])))]
    else
      f.steps d source (path ++ [f.name.shown]) (jsonPath ++ [f.name.shown]) ++
        fieldSteps d source path jsonPath (f.name :: seen) rest

end

/-- An alias in use: a reserved one, or that of the column of a field. -/
structure TakenLabel where
  label : String
  owner : Option String

/-- The error of `_append` for a column whose alias is in use. -/
def collision (taken : List TakenLabel) (column : Column) : Option Malformation :=
  (taken.find? (·.label == column.label)).map fun t =>
    match t.owner with
    | some owner => .labelTaken column.label owner
    | none => .labelReserved column.label

/-- The result of some steps where the aliases `taken` are in use. -/
def takeSteps (taken : List TakenLabel) : List Step → Except ViewError Flat
  | [] => .ok ⟨[], []⟩
  | .fail e :: _ => .error e
  | .child child :: rest => do
    let flat ← takeSteps taken rest
    return { flat with children := child.before flat.children }
  | .column column :: rest =>
    match collision taken column with
    | some problem => .error (.atField problem column.name)
    | none => do
      let flat ← takeSteps (⟨column.label, some column.name⟩ :: taken) rest
      return { flat with columns := column :: flat.columns }

def reservedLabels (names : List String) : List TakenLabel := names.map (⟨·, none⟩)

/-- `flatten` below a path, from the JSON text `source`. -/
def flatten (d : Sql.Dialect) (source : String) (path reserved : List String)
    (fields : List Field) : Except ViewError Flat :=
  takeSteps (reservedLabels reserved) (fieldSteps d source path path [] fields)

/-- `flatten_child`, from the expression `source` of one element. -/
def ChildSchema.flatten (child : ChildSchema) (d : Sql.Dialect) (source : String)
    (reserved : List String) : Except ViewError Flat :=
  takeSteps (reservedLabels reserved) <|
    match child.content with
    | .members fields => fieldSteps d source [] [] [] fields
    | .atRoot element => element.steps d source [element.name.shown] []

end ChangelogViews
