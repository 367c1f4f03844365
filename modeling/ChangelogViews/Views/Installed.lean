import ChangelogViews.Log
import ChangelogViews.Views.Compiled

/-!
# Installing the views of a schema

The views of a schema are created in their order by a view manager, so that each finds those that it
reads. The first view that fails ends the work, and those before it stay.
-/

namespace ChangelogViews

structure Outcome (σ α : Type) where
  state : σ
  logs : List LogEntry
  result : α

/-- `ViewManager`: `create_or_replace_view` over the state of a database, with what it logs meanwhile and the
failure of a view that was not created. -/
structure ViewManager (σ : Type) where
  create : σ → (dataset view query : String) → Outcome σ (Except Failure Unit)

/-- `SchemaViewState`. -/
inductive Stage where
  | notStarted
  | latestViewCreated
  | topViewCreated
  | childViewsCreated
  | done
  deriving DecidableEq, Repr

def Stage.name : Stage → String
  | .notStarted => "not_started"
  | .latestViewCreated => "latest_view_created"
  | .topViewCreated => "top_view_created"
  | .childViewsCreated => "child_views_created"
  | .done => "done"

/-- `SchemaViewResult`. -/
structure SchemaResult where
  schema : String
  stage : Stage
  created : List String
  error : Option ViewError
  deriving Repr

namespace SchemaResult

def start (schema : String) : SchemaResult := ⟨schema, .notStarted, [], none⟩

def ok (r : SchemaResult) : Bool := r.stage = .done

/-- One more view was created. -/
def advance (r : SchemaResult) (view : String) (stage : Stage) : SchemaResult :=
  { r with created := r.created ++ [view], stage := stage }

def finish (r : SchemaResult) : SchemaResult := { r with stage := .done }

end SchemaResult

/-- The views in creation order, each with the stage that is reached once it is there. -/
def SchemaViews.stages (views : SchemaViews) : List (View × Stage) :=
  (views.snapshot, .latestViewCreated) :: (views.top, .topViewCreated) ::
    views.children.map (·, .topViewCreated)

abbrev Installed := SchemaResult × Option Failure

namespace ViewManager

variable {σ : Type}

/-- `_create`: submits one view and adds the names of schema and view to an error. -/
def submit (m : ViewManager σ) (dataset schema : String) (view : View) (state : σ) :
    Outcome σ (Except Failure Unit) :=
  let reply := m.create state dataset view.name view.sql
  let result := match reply.result with
    | .error (.views e) => .error (.views (e.addContext ⟨some schema, some view.name, none⟩))
    | other => other
  ⟨reply.state, .ofFactory .debug s!"Creating view {dataset}.{view.name}" :: reply.logs, result⟩

/-- Creates the views of a list until one fails. -/
def installEach (m : ViewManager σ) (dataset : String) (result : SchemaResult) (state : σ) :
    List (View × Stage) → Outcome σ Installed
  | [] => ⟨state, [], result, none⟩
  | (view, stage) :: rest =>
    let reply := m.submit dataset result.schema view state
    match reply.result with
    | .error failure => ⟨reply.state, reply.logs, result, some failure⟩
    | .ok () =>
      let later := m.installEach dataset (result.advance view.name stage) reply.state rest
      { later with logs := reply.logs ++ later.logs }

def doneEntry (dataset : String) (result : SchemaResult) : LogEntry :=
  .ofFactory .info
    s!"Created {result.created.length} view(s) for schema {result.schema} in dataset {dataset}"

/-- `install`, given a view manager. -/
def install (m : ViewManager σ) (dataset : String) (views : SchemaViews) (state : σ) :
    Outcome σ Installed :=
  let run := m.installEach dataset (.start views.schema) state views.stages
  match run.result with
  | (result, some failure) => ⟨run.state, run.logs, result, some failure⟩
  | (result, none) =>
    ⟨run.state, run.logs ++ [doneEntry dataset result.finish], result.finish, none⟩

/-- `install`, which reports `ViewManagerUnavailable` without one. -/
def installIn (m : Option (ViewManager σ)) (dataset : String) (views : SchemaViews) (state : σ) :
    Outcome σ Installed :=
  match m with
  | some m => m.install dataset views state
  | none =>
    let error : ViewError := ⟨.noManager none, ⟨some views.schema, none, none⟩⟩
    ⟨state, [], .start views.schema, some (.views error)⟩

end ViewManager

/-- `initialize_schema_view_resources`. -/
def Target.deploy {σ : Type} (t : Target) (m : Option (ViewManager σ)) (dataset : String)
    (first schemaName : Option String) (schema : Schema) (changelog : Option String) (state : σ) :
    Outcome σ (Except Failure SchemaResult) :=
  match t.compile dataset first schemaName schema changelog with
  | .error failure => ⟨state, [], .error failure⟩
  | .ok views =>
    let run := ViewManager.installIn m dataset views state
    match run.result with
    | (_, some failure) => ⟨run.state, run.logs, .error failure⟩
    | (result, none) => ⟨run.state, run.logs, .ok result⟩

end ChangelogViews
