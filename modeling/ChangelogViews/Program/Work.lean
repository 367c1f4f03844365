import ChangelogViews.Config.Basic
import ChangelogViews.Schema.Loaded
import ChangelogViews.Sql.Dialects
import ChangelogViews.Store.BigQuery
import ChangelogViews.Store.DuckDb
import ChangelogViews.Views.Batch
import ChangelogViews.Views.Preview

/-!
# The work of a run

With its configuration a run reads the schemas and either creates their views in the configured
database or, as a dry run, writes the statements that would create them.
-/

namespace ChangelogViews

/-- The text on stdout and stderr. -/
structure Output where
  out : String
  err : String
  deriving DecidableEq, Repr

namespace Output

def none : Output := ⟨"", ""⟩

def result (text : String) : Output := ⟨text, ""⟩

def complaint (text : String) : Output := ⟨"", text⟩

def append (first next : Output) : Output := ⟨first.out ++ next.out, first.err ++ next.err⟩

instance : Append Output := ⟨append⟩

def concat (outputs : List Output) : Output := outputs.foldr append none

end Output

/-- The databases that a run can reach, each in its state. -/
structure Databases (σ τ : Type) where
  remote : BigQuery.Remote σ
  remoteState : σ
  engine : DuckDb.Engine τ
  engineState : τ

/-- What was exchanged with a database. -/
inductive Traffic where
  | none
  | bigQuery (sent : List BigQuery.Request)
  | duckDb (events : List DuckDb.Event)
  deriving DecidableEq, Repr

namespace Config

/-- `make_factory` without its view manager. -/
def target (config : Config) : Target where
  dialect := match config.backend with
    | .bigQuery => Sql.BigQuery.dialect
    | .duckDb => Sql.DuckDb.dialect
  project :=
    if isGiven config.bigQueryProjectId then config.bigQueryProjectId.getD ""
    else config.projectId.getD ""
  layout := config.changelog

def dataset (config : Config) : String := config.datasetId.getD ""

/-- `initialize_all` on the configured database, unless it cannot be opened. -/
def deploy {σ τ : Type} (config : Config) (db : Databases σ τ)
    (schemas : List (String × Schema)) :
    Outcome Traffic (Except Foreign (Except Failure (List SchemaResult))) :=
  match config.backend with
  | .bigQuery =>
    let manager := BigQuery.manager db.remote (config.bigQueryProjectId.getD "")
    let run := config.target.deployAll (some manager) config.dataset config.tablePrefix schemas
      ⟨false, [], db.remoteState⟩
    ⟨.bigQuery run.state.sent, run.logs, .ok run.result⟩
  | .duckDb =>
    let manager := DuckDb.manager db.engine.toConnection
    let run := db.engine.within config.duckDbPath.text db.engineState fun session =>
      config.target.deployAll (some manager) config.dataset config.tablePrefix schemas session
    ⟨.duckDb run.state.events, run.logs, run.result⟩

end Config

/-- What is written for the statements of a schema. -/
def Preview.output (p : Preview) : Output :=
  match p.statements with
  | .ok statements =>
    .result (s!"-- schema {p.schema}\n" ++ String.join (statements.map (· ++ ";\n\n")))
  | .error e => .complaint s!"❌ {e.text}\n"

def Preview.ok (p : Preview) : Bool := p.statements.toBool

/-- What is written for the views of a schema. -/
def SchemaResult.output (r : SchemaResult) : Output :=
  if r.ok then .result s!"✅ {r.schema}: {r.created.length} view(s)\n"
  else
    let reason := (r.error.map ViewError.text).getD "None"
    .complaint s!"❌ {r.schema}: {reason} (reached {r.stage.name})\n"

def statusOf (allWell : Bool) : Nat := if allWell then 0 else 1

/-- How a run ends: with a status, or with a failure that it does not handle. -/
inductive WorkEnd where
  | status (code : Nat)
  | failed (failure : Failure)
  deriving Repr

/-- What a run wrote and exchanged, and how it ended. -/
structure WorkReport where
  output : Output
  traffic : Traffic
  ending : WorkEnd
  deriving Repr

namespace Config

/-- `print_statements`. -/
def dryRun (config : Config) (schemas : List (String × Schema)) : WorkReport :=
  let (previews, failure) := config.target.preview config.dataset config.tablePrefix schemas
  let ending : WorkEnd := match failure with
    | some failure => .failed failure
    | none => .status (statusOf (previews.all Preview.ok))
  ⟨.concat (previews.map Preview.output), .none, ending⟩

/-- `run` on schemas that were read, without `dry_run`. -/
def realRun {σ τ : Type} (config : Config) (log : Log) (db : Databases σ τ)
    (schemas : List (String × Schema)) : WorkReport :=
  let run := config.deploy db schemas
  let opening : Output :=
    .result s!"📦 Reading changelog {config.dataset}.{config.rawChangelog}\n"
  let logged : Output := .complaint (log.writeAll run.logs)
  match run.result with
  | .error failure => ⟨.none, run.state, .failed (.foreign failure)⟩
  | .ok (.error failure) => ⟨opening ++ logged, run.state, .failed failure⟩
  | .ok (.ok results) =>
    ⟨opening ++ logged ++ .concat (results.map SchemaResult.output) ++ .result "done.\n", run.state,
      .status (statusOf (results.all SchemaResult.ok))⟩

/-- `run`. -/
def work {σ τ : Type} (config : Config) (dry : Bool) (log : Log) (files : FileTree)
    (db : Databases σ τ) : WorkReport :=
  let (logs, schemas) := readSchemas files config.schemaFiles
  let logged : Output := .complaint (log.writeAll logs)
  match schemas with
  | .error failure => ⟨logged, .none, .failed failure⟩
  | .ok [] => ⟨logged ++ .result "No schema files found!\n", .none, .status 0⟩
  | .ok schemas =>
    let run := if dry then config.dryRun schemas else config.realRun log db schemas
    { run with output := logged ++ run.output }

end Config
end ChangelogViews
