import ChangelogViews.Document.Value

/-!
# Layers of settings

Each source of settings gives some of them, as values that were not checked yet. A layer is laid over
another: what both give is taken from the upper one, and objects that both give are merged member by
member.
-/

namespace ChangelogViews

mutual

/-- The upper value, merged with the lower one if both are objects. -/
def Value.coveredBy (lower : Value) : Value → Value
  | .object members =>
    match lower with
    | .object below => .object (membersCovered below members)
    | _ => .object members
  | upper => upper

/-- The lower members with the upper ones put in their place or behind them. -/
def membersCovered (below : List (String × Value)) : List (String × Value) → List (String × Value)
  | [] => below
  | (name, upper) :: rest =>
    let merged := match member? below name with
      | some lower => Value.coveredBy lower upper
      | none => upper
    membersCovered (setMember below name merged) rest

end

def givenCovered (lower upper : Option Value) : Option Value :=
  match upper, lower with
  | some upper, some lower => some (lower.coveredBy upper)
  | some upper, none => some upper
  | none, lower => lower

/-- The settings that one source gives, and the name that it gives the project under. -/
structure Layer where
  projectName : String := "project_id"
  projectId : Option Value := none
  bigQueryProjectId : Option Value := none
  datasetId : Option Value := none
  tablePrefix : Option Value := none
  schemaFiles : Option Value := none
  backend : Option Value := none
  duckDbPath : Option Value := none
  changelog : Option Value := none
  deriving Repr

namespace Layer

def empty : Layer := {}

/-- The `AliasChoices` of the project, the first one first. -/
def projectNames : List String := ["project_id", "FIRESTORE_VIEWS_PROJECT_ID", "PROJECT_ID"]

def structuredNames : List String := ["schema_files", "changelog"]

def settingNames : List String :=
  ["bigquery_project_id", "dataset_id", "table_name_prefix", "backend", "duckdb_path"] ++
    structuredNames

/-- The settings among named values. The project is taken from the first of its names that is there,
and other names say nothing. -/
def ofMembers (members : List (String × Value)) : Layer where
  projectName := (projectNames.find? fun name => (member? members name).isSome).getD "project_id"
  projectId := projectNames.findSome? (member? members ·)
  bigQueryProjectId := member? members "bigquery_project_id"
  datasetId := member? members "dataset_id"
  tablePrefix := member? members "table_name_prefix"
  schemaFiles := member? members "schema_files"
  backend := member? members "backend"
  duckDbPath := member? members "duckdb_path"
  changelog := member? members "changelog"

def givenNames (layer : Layer) : List String :=
  [(layer.projectName, layer.projectId), ("bigquery_project_id", layer.bigQueryProjectId),
    ("dataset_id", layer.datasetId), ("table_name_prefix", layer.tablePrefix),
    ("schema_files", layer.schemaFiles), ("backend", layer.backend),
    ("duckdb_path", layer.duckDbPath), ("changelog", layer.changelog)].filterMap
      fun (name, given) => given.map fun _ => name

/-- The name of the project in the upper layer, or in the lower one if only that has a project. -/
def projectNameOver (lower upper : Layer) : String :=
  if upper.projectId.isNone && lower.projectId.isSome then lower.projectName else upper.projectName

/-- `deep_update` of the lower layer with the upper one. -/
def coveredBy (lower upper : Layer) : Layer where
  projectName := lower.projectNameOver upper
  projectId := givenCovered lower.projectId upper.projectId
  bigQueryProjectId := givenCovered lower.bigQueryProjectId upper.bigQueryProjectId
  datasetId := givenCovered lower.datasetId upper.datasetId
  tablePrefix := givenCovered lower.tablePrefix upper.tablePrefix
  schemaFiles := givenCovered lower.schemaFiles upper.schemaFiles
  backend := givenCovered lower.backend upper.backend
  duckDbPath := givenCovered lower.duckDbPath upper.duckDbPath
  changelog := givenCovered lower.changelog upper.changelog

/-- The settings of both layers, where a setting of the upper one takes the place of the lower. -/
def replacing (lower upper : Layer) : Layer where
  projectName := lower.projectNameOver upper
  projectId := upper.projectId.or lower.projectId
  bigQueryProjectId := upper.bigQueryProjectId.or lower.bigQueryProjectId
  datasetId := upper.datasetId.or lower.datasetId
  tablePrefix := upper.tablePrefix.or lower.tablePrefix
  schemaFiles := upper.schemaFiles.or lower.schemaFiles
  backend := upper.backend.or lower.backend
  duckDbPath := upper.duckDbPath.or lower.duckDbPath
  changelog := upper.changelog.or lower.changelog

/-- The settings of a file of variables together with those that other variables in it give by bare
names. These count more, but a project only by its first name. -/
def withOthers (layer others : Layer) : Layer :=
  if layer.projectId.isSome && others.projectName ≠ "project_id" then
    layer.replacing { others with projectId := none }
  else layer.replacing others

end Layer
end ChangelogViews
