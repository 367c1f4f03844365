import ChangelogViews.Config.Layer
import ChangelogViews.Files.Path
import ChangelogViews.Naming
import ChangelogViews.Sql.ChangelogLayout

/-!
# The configuration

Which schemas are read, and which database, project and dataset their views go to. A configuration
comes from a layer of settings, of which all issues are reported at once.
-/

namespace ChangelogViews

/-- `Backend`. -/
inductive Backend where
  | bigQuery
  | duckDb
  deriving DecidableEq, Repr

namespace Backend

def name : Backend → String
  | .bigQuery => "bigquery"
  | .duckDb => "duckdb"

def all : List Backend := [.bigQuery, .duckDb]

def ofName? (name : String) : Option Backend := all.find? (·.name == name)

def capitals : Backend → String
  | .bigQuery => "BIGQUERY"
  | .duckDb => "DUCKDB"

end Backend

/-- `SchemaViewsConfig`. -/
structure Config where
  projectId : Option String
  bigQueryProjectId : Option String
  datasetId : Option String
  tablePrefix : Option String
  schemaFiles : List String
  backend : Backend
  duckDbPath : Path
  changelog : ChangelogLayout
  deriving Repr

namespace Config

def checkWhole (v : Value) : Checked String :=
  match checkText v with
  | .ok text =>
    match text.whole? with
    | some s => .ok s
    | none => .problem .notUtf8
  | .error issues => .error issues

/-- A name that matches the pattern to its end, or nothing. -/
def checkName (rule : NameRule) : Value → Checked (Option String)
  | .null => .ok none
  | v =>
    match checkWhole v with
    | .ok text =>
      if rule.acceptsExactly text then .ok (some text) else .problem (.mismatch rule.pattern)
    | .error issues => .error issues

def checkTexts (i : Nat) : List Value → Checked (List String)
  | [] => .ok []
  | item :: rest =>
    ((Checked.under (.index i) (checkShown item)).both (checkTexts (i + 1) rest)).map
      fun (text, texts) => text :: texts

def checkTextList : Value → Checked (List String)
  | .list items => checkTexts 0 items
  | _ => .problem .notList

def checkBackend : Value → Checked Backend
  | .text name =>
    match name.whole? with
    | some name =>
      match Backend.ofName? name with
      | some backend => .ok backend
      | none => unknown
    | none => .problem .notUtf8
  | _ => unknown
where
  unknown : Checked Backend := .problem (.notAmong (Backend.all.map Backend.name))

def checkPath : Value → Checked Path
  | .text path => .ok (.ofText path.shown)
  | _ => .problem .notPath

def checkGiven {α : Type} (name : String) (given : Option Value) (standard : α)
    (check : Value → Checked α) : Checked α :=
  Checked.under (.member name) <|
    match given with
    | none => .ok standard
    | some v => check v

def standardDuckDbPath : Path := .ofText "firestore-views.duckdb"

/-- The configuration of some settings, completed by `default_bigquery_project`. -/
def ofLayer (layer : Layer) : Checked Config :=
  let name (label : String) (given : Option Value) (rule : NameRule) :=
    checkGiven label given none (checkName rule)
  let parts :=
    (name layer.projectName layer.projectId .segment).both <|
      (name "bigquery_project_id" layer.bigQueryProjectId .project).both <|
        (name "dataset_id" layer.datasetId .word).both <|
          (name "table_name_prefix" layer.tablePrefix .word).both <|
            (checkGiven "schema_files" layer.schemaFiles [] checkTextList).both <|
              (checkGiven "backend" layer.backend .bigQuery checkBackend).both <|
                (checkGiven "duckdb_path" layer.duckDbPath standardDuckDbPath checkPath).both <|
                  checkGiven "changelog" layer.changelog .standard ChangelogLayout.check
  parts.map fun (project, bigQuery, dataset, first, files, backend, path, changelog) =>
    ⟨project, bigQuery.or project, dataset, first, files, backend, path, changelog⟩

def isGiven : Option String → Bool
  | some text => text ≠ ""
  | none => false

/-- `missing_required`. -/
def missing (config : Config) : List String :=
  let projects := match config.backend with
    | .bigQuery =>
      [("project", config.projectId), ("big-query-project", config.bigQueryProjectId)]
    | .duckDb => []
  let names := projects ++
    [("dataset", config.datasetId), ("table-name-prefix", config.tablePrefix)]
  (names.filter fun (_, given) => !isGiven given).map (·.1) ++
    (if config.schemaFiles.isEmpty then ["schema-files"] else [])

/-- `raw_changelog_table`. -/
def rawChangelog (config : Config) : String := Names.rawChangelog config.tablePrefix

end Config
end ChangelogViews
