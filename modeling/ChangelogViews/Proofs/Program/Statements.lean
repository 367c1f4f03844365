import ChangelogViews.Program.Work
import ChangelogViews.Proofs.Batch.Acceptance
import ChangelogViews.Proofs.Batch.Isolation
import ChangelogViews.Proofs.Store.Written

/-!
# Statements

The statements that a preview shows for a schema are put together without a database, from the dialect
and the project of a target. What a database receives when the views are created is put together from
what its manager knows. Both agree (`Target.statements_are_written`).
-/

namespace ChangelogViews

theorem Config.target_regular (config : Config) : config.target.dialect.Regular := by
  refine Sql.Dialect.regular_of_mem ?_
  unfold target
  cases config.backend <;> simp [Sql.dialects]

/-- The project of a configuration for BigQuery that lacks nothing. -/
theorem Config.project_of_missing {config : Config} (bigQuery : config.backend = .bigQuery)
    (complete : config.missing = []) :
    config.target.project = config.bigQueryProjectId.getD "" := by
  have given : isGiven config.bigQueryProjectId = true := by
    unfold missing at complete
    rw [bigQuery] at complete
    have options := (List.append_eq_nil_iff.mp complete).1
    simp only [List.map_eq_nil_iff, List.filter_eq_nil_iff] at options
    simpa using options ("big-query-project", config.bigQueryProjectId) (by simp)
  unfold target
  simp only [given, if_true]

namespace Target

variable {σ τ : Type}

/-- What is done in a database for a batch of one schema is what is done to install it. -/
theorem deployAll_one {t : Target} (regular : t.dialect.Regular) (m : Option (ViewManager σ))
    {dataset : String} {first : Option String} {name : String} {schema : Schema} {views : SchemaViews}
    (done : t.compile dataset first (some name) schema none = .ok views) (state : σ) :
    (t.deployAll m dataset first [(name, schema)] state).state =
      (ViewManager.installIn m dataset views state).state := by
  have final : t.finalDraft dataset first [(name, schema)] (name, schema) = (name, .ok views) := by
    unfold finalDraft draft
    rw [clash_alone t dataset first (name, schema), done]
    rfl
  have drafted := drafts_result regular dataset first [(name, schema)]
  rw [(deployAll_installs (List.cons_ne_nil _ _) drafted state).state, List.map_singleton, final]
  unfold installDrafts
  generalize ViewManager.installIn m dataset views state = run
  obtain ⟨state', logs, result, stop⟩ := run
  cases stop with
  | none => rfl
  | some failure => cases failure <;> rfl

/-- The statement that the view of an id and a query is written by. -/
def writtenBy (write : String × String) : String :=
  Sql.createStatement (Sql.BigQuery.quote write.1) write.2

private theorem statements_executed {connection : DuckDb.Connection τ}
    (accepts : ∀ state statement, (connection.execute state statement).1 = .ok ()) {t : Target}
    (duckDb : t.dialect = Sql.DuckDb.dialect) (dataset : String) (views : SchemaViews)
    (session : DuckDb.Session τ) :
    ∃ statements, t.statements dataset views = .ok statements ∧
      ((DuckDb.manager connection).install dataset views session).result.2 = none ∧
      ((DuckDb.manager connection).install dataset views session).state.events =
        session.events ++ statements.map .executed := by
  have spelled : t.dialect.spelled = .ok Sql.DuckDb.spelling := by
    rw [duckDb]
    rfl
  have steady := DuckDb.steady_of_accepts accepts
  have ended := congrArg Prod.snd
    (ViewManager.install_accepted (ViewManager.accepts_of_steady steady dataset session views.all)).1
  obtain ⟨more, kept, _, all⟩ :=
    ViewManager.install_writes (DuckDb.manager_writes connection dataset) views session
  refine ⟨_, statements_eq spelled dataset views, ended, ?_⟩
  rw [kept, all ended, List.map_map]
  rfl

private theorem statements_sent {config : Config} (bigQuery : config.backend = .bigQuery)
    (complete : config.missing = []) {remote : BigQuery.Remote σ} (finds : remote.FindsAsked)
    (dataset : String) (views : SchemaViews) (session : BigQuery.Session σ) :
    let run := (BigQuery.manager remote (config.bigQueryProjectId.getD "")).install dataset views session
    ∃ statements writes, config.target.statements dataset views = .ok statements ∧
      run.state.writes = session.writes ++ writes ∧ writes.map writtenBy <+: statements ∧
      (run.result.2 = none → writes.map writtenBy = statements) := by
  have spelled : config.target.dialect.spelled = .ok Sql.BigQuery.spelling := by
    unfold Config.target
    simp only [bigQuery]
    rfl
  have project := config.project_of_missing bigQuery complete
  obtain ⟨more, kept, least, all⟩ := ViewManager.install_writes
    (BigQuery.manager_writes finds (config.bigQueryProjectId.getD "") dataset) views session
  have same : (views.all.map fun view => Sql.createStatement
      (Sql.BigQuery.spelling.tableRef config.target.project dataset view.name) view.sql) =
      (views.all.map fun view =>
        (BigQuery.viewId (config.bigQueryProjectId.getD "") dataset view.name, view.sql)).map
          writtenBy := by
    rw [project, List.map_map]
    rfl
  refine ⟨_, more, statements_eq spelled dataset views, kept, ?_, ?_⟩
  · rw [same]
    exact least.map writtenBy
  · intro ended
    rw [same, all ended]

/-- The statements for the views of a schema are what a database receives. A DuckDB that accepts
everything executes just these, in order and whatever the project is. In BigQuery, under a
configuration that lacks nothing, each view that is created or updated has the id and the query of its
statement, in order up to the first view that fails, if a get brings the table that was asked for; and what
a run sends for these views is what creating them sends. -/
theorem statements_are_written :
    (∀ connection : DuckDb.Connection τ,
      (∀ state statement, (connection.execute state statement).1 = .ok ()) →
      ∀ t : Target, t.dialect = Sql.DuckDb.dialect → ∀ dataset views session,
        ∃ statements, t.statements dataset views = .ok statements ∧
          ((DuckDb.manager connection).install dataset views session).result.2 = none ∧
          ((DuckDb.manager connection).install dataset views session).state.events =
            session.events ++ statements.map .executed) ∧
    ∀ config : Config, config.backend = .bigQuery → config.missing = [] →
      ∀ db : Databases σ τ,
        let manager := BigQuery.manager db.remote (config.bigQueryProjectId.getD "")
        (db.remote.FindsAsked → ∀ dataset views session, ∃ statements writes,
          config.target.statements dataset views = .ok statements ∧
          (manager.install dataset views session).state.writes = session.writes ++ writes ∧
          writes.map writtenBy <+: statements ∧
          ((manager.install dataset views session).result.2 = none →
            writes.map writtenBy = statements)) ∧
        ∀ name schema views,
          config.target.compile config.dataset config.tablePrefix (some name) schema none = .ok views →
          (config.deploy db [(name, schema)]).state =
            .bigQuery (manager.install config.dataset views ⟨false, [], db.remoteState⟩).state.sent := by
  refine ⟨?_, ?_⟩
  · intro connection accepts t duckDb dataset views session
    exact statements_executed accepts duckDb dataset views session
  · intro config bigQuery complete db manager
    refine ⟨statements_sent bigQuery complete, ?_⟩
    intro name schema views done
    have alone := deployAll_one config.target_regular (some manager) done ⟨false, [], db.remoteState⟩
    unfold Config.deploy
    rw [bigQuery]
    exact congrArg (fun session => Traffic.bigQuery session.sent) alone

/-- A configuration for BigQuery. -/
def inBigQuery : Config :=
  ⟨some "p", some "q", some "d", some "f", ["s"], .bigQuery, .ofText "f.duckdb", .standard⟩

/-- A schema with an array. -/
def withArray : Schema := ⟨[.ofKind (.ofString "a") .array]⟩

theorem withArray_is_written :
    (∃ views statements,
      compile ⟨Sql.DuckDb.dialect, "p", .standard⟩ "d" (some "f") (some "s") withArray none = .ok views ∧
      Target.statements ⟨Sql.DuckDb.dialect, "p", .standard⟩ "d" views = .ok statements ∧
      ((DuckDb.manager DuckDb.willing.toConnection).install "d" views ⟨[], ()⟩).state.events =
        statements.map .executed) ∧
    inBigQuery.backend = .bigQuery ∧ inBigQuery.missing = [] ∧ BigQuery.updatable.FindsAsked ∧
    ∃ views statements sent,
      inBigQuery.target.compile "d" (some "f") (some "s") withArray none = .ok views ∧
      inBigQuery.target.statements "d" views = .ok statements ∧
      (inBigQuery.deploy ⟨BigQuery.updatable, (), DuckDb.willing, ()⟩ [("s", withArray)]).state =
        .bigQuery sent ∧
      (sent.filterMap BigQuery.Request.write?).map writtenBy = statements := by
  obtain ⟨executed, sent⟩ := @statements_are_written Unit Unit
  have missing : inBigQuery.missing = [] := by decide
  refine ⟨?_, rfl, missing, BigQuery.updatable_findsAsked, ?_⟩
  · have compiled : ∃ views, compile ⟨Sql.DuckDb.dialect, "p", .standard⟩ "d" (some "f") (some "s")
        withArray none = .ok views := by
      unfold compile
      rw [layOut_eq]
      exact ⟨_, rfl⟩
    obtain ⟨views, done⟩ := compiled
    obtain ⟨statements, shown, _, events⟩ := executed DuckDb.willing.toConnection (fun _ _ => rfl)
      ⟨Sql.DuckDb.dialect, "p", .standard⟩ rfl "d" views ⟨[], ()⟩
    exact ⟨views, statements, done, shown, events⟩
  · have compiled : ∃ views, inBigQuery.target.compile "d" (some "f") (some "s") withArray none =
        .ok views := by
      unfold compile
      rw [layOut_eq]
      exact ⟨_, rfl⟩
    obtain ⟨views, done⟩ := compiled
    obtain ⟨installed, run⟩ := sent inBigQuery rfl missing ⟨BigQuery.updatable, (), DuckDb.willing, ()⟩
    obtain ⟨statements, writes, shown, kept, _, all⟩ := installed BigQuery.updatable_findsAsked "d" views
      ⟨false, [], ()⟩
    have accepts := ViewManager.accepts_of_steady (BigQuery.updatable_steady "q") "d"
      ⟨false, [], ()⟩ views.all
    have whole := all (congrArg Prod.snd (ViewManager.install_accepted accepts).1)
    refine ⟨views, statements, _, done, shown, run "s" withArray views done, ?_⟩
    rw [← whole]
    exact congrArg (List.map writtenBy) kept

end Target
end ChangelogViews
