import ChangelogViews.Views.Installed
import ChangelogViews.Sql.DuckDb
import ChangelogViews.Sql.ViewQuery

/-!
# Views in DuckDB

A view is created or replaced by one statement on an open connection. The dataset is a schema of the
database.
-/

namespace ChangelogViews.DuckDb

/-- How a statement fails: as a `duckdb.Error`, or in a way that is none. -/
inductive Refusal where
  | database (message : String)
  | foreign (failure : Foreign)
  deriving DecidableEq, Repr

structure Connection (σ : Type) where
  execute : σ → (statement : String) → Except Refusal Unit × σ

inductive Event where
  | opened (path : String)
  | executed (statement : String)
  | closed
  deriving DecidableEq, Repr

structure Session (σ : Type) where
  events : List Event
  database : σ

def createStatement (dataset view query : String) : String :=
  Sql.createStatement (Sql.DuckDb.spelling.tableRef "" dataset view) query

/-- `DuckDBViewManager`. -/
def manager {σ : Type} (connection : Connection σ) : ViewManager (Session σ) where
  create session dataset view query :=
    let statement := createStatement dataset view query
    let (reply, database) := connection.execute session.database statement
    let session : Session σ := ⟨session.events ++ [.executed statement], database⟩
    match reply with
    | .ok () =>
      ⟨session, [.ofDuckDb .info s!"Created or replaced view {dataset}.{view}"], .ok ()⟩
    | .error (.database message) =>
      let error : ViewError :=
        ⟨.rejected (.byDuckDb dataset view message) (some statement), ⟨none, some view, none⟩⟩
      ⟨session, [], .error (.views error)⟩
    | .error (.foreign failure) => ⟨session, [], .error (.foreign failure)⟩

/-- A database that `connect_db` can open by its path. -/
structure Engine (σ : Type) extends Connection σ where
  connect : σ → (path : String) → Except Foreign Unit × σ

/-- Opens a database for some work and closes it behind it. A database that cannot be opened is
neither worked on nor closed. -/
def Engine.within {σ α : Type} (engine : Engine σ) (path : String) (state : σ)
    (work : Session σ → Outcome (Session σ) α) : Outcome (Session σ) (Except Foreign α) :=
  match engine.connect state path with
  | (.error failure, state) => ⟨⟨[.opened path], state⟩, [], .error failure⟩
  | (.ok (), state) =>
    let run := work ⟨[.opened path], state⟩
    let events := run.state.events ++ [.closed]
    ⟨{ run.state with events := events }, run.logs, .ok run.result⟩

end ChangelogViews.DuckDb
