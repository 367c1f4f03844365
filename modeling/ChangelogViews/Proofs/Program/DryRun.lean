import ChangelogViews.Proofs.Program.Statements
import ChangelogViews.Proofs.Schema.Reading
import ChangelogViews.Proofs.Store.Tables

/-!
# Dry runs

A dry run writes the statements of one schema after the other and never compares the view names of two
schemas. It tells what a run does in a database that accepts its views, but for the schemas that share
a view name: their statements are written, and none of their views is created
(`Config.dry_run_predicts`).
-/

namespace ChangelogViews

namespace Target

variable {t : Target} {dataset : String} {first : Option String} {schemas : List (String × Schema)}
  {entry : String × Schema}

theorem schemaStatements_of_regular (regular : t.dialect.Regular) (dataset : String)
    (first : Option String) (entry : String × Schema) :
    (∃ views statements, t.compile dataset first (some entry.1) entry.2 none = .ok views ∧
      t.schemaStatements dataset first entry.1 entry.2 = .ok statements) ∨
    ∃ e, t.compile dataset first (some entry.1) entry.2 none = .error (.views e) ∧
      t.schemaStatements dataset first entry.1 entry.2 = .error (.views e) := by
  unfold schemaStatements
  cases compiled : t.compile dataset first (some entry.1) entry.2 none with
  | error failure =>
    obtain ⟨e, rfl⟩ := compile_failure regular compiled
    exact .inr ⟨e, rfl, rfl⟩
  | ok views =>
    obtain ⟨spelling, spelled⟩ := regular.spells
    obtain ⟨statements, shown⟩ : ∃ statements, t.statements dataset views = .ok statements :=
      ⟨_, statements_eq spelled dataset views⟩
    refine .inl ⟨views, statements, rfl, ?_⟩
    change orSqlStop (t.statements dataset views) = .ok statements
    rw [shown]
    rfl

/-- The preview of a schema of a batch. -/
def previewOf (t : Target) (dataset : String) (first : Option String) (entry : String × Schema) :
    Preview :=
  ⟨entry.1, (t.schemaStatements dataset first entry.1 entry.2).mapError Failure.error⟩

theorem preview_eq (regular : t.dialect.Regular) (dataset : String) (first : Option String)
    (schemas : List (String × Schema)) :
    t.preview dataset first schemas = (schemas.map (t.previewOf dataset first), none) := by
  induction schemas with
  | nil => rfl
  | cons entry rest ih =>
    obtain ⟨name, schema⟩ := entry
    unfold preview
    rw [List.map_cons, previewOf, ih]
    rcases schemaStatements_of_regular regular dataset first (name, schema) with
      ⟨_, statements, _, made⟩ | ⟨e, _, failed⟩
    · simp only [made]
      rfl
    · simp only [failed]
      rfl

/-- A schema compiles. -/
def Compiles (t : Target) (dataset : String) (first : Option String) (entry : String × Schema) : Prop :=
  ∃ views, t.compile dataset first (some entry.1) entry.2 none = .ok views

theorem previewOf_ok (regular : t.dialect.Regular) :
    (t.previewOf dataset first entry).ok = true ↔ t.Compiles dataset first entry := by
  unfold previewOf Preview.ok Compiles
  rcases schemaStatements_of_regular regular dataset first entry with
    ⟨views, statements, done, made⟩ | ⟨e, failed, stopped⟩
  · rw [made]
    exact iff_of_true rfl ⟨views, done⟩
  · rw [stopped, failed]
    refine iff_of_false Bool.false_ne_true ?_
    rintro ⟨_, done⟩
    cases done

/-- Where every view is accepted, the views of a schema are all created if it compiles and is not
blamed for a shared name, and else none is. -/
theorem settle_accepting (t : Target) (dataset : String) (first : Option String)
    (schemas : List (String × Schema)) (entry : String × Schema) :
    ((t.settle (some accepting) dataset first schemas entry).ok = true ↔
      t.Compiles dataset first entry ∧ member? (t.clashes dataset first schemas) entry.1 = none) ∧
    ((t.settle (some accepting) dataset first schemas entry).created ≠ [] ↔
      t.Compiles dataset first entry ∧ member? (t.clashes dataset first schemas) entry.1 = none) := by
  unfold settle draft Compiles
  cases member? (t.clashes dataset first schemas) entry.1 with
  | some e => simp [SchemaResult.ok, SchemaResult.start]
  | none =>
    cases t.compile dataset first (some entry.1) entry.2 none with
    | error failure =>
      have uncompiled : ¬ ∃ views, (.error failure : Except Failure SchemaViews) = .ok views := by
        rintro ⟨_, done⟩
        cases done
      exact ⟨iff_of_false Bool.false_ne_true fun both => uncompiled both.1,
        iff_of_false (fun created => created rfl) fun both => uncompiled both.1⟩
    | ok views =>
      have settled : SchemaResult.ofDraft (some accepting) dataset (entry.1, .ok views) =
          ((SchemaResult.start views.schema).behind views.stages).finish := by
        simp only [SchemaResult.ofDraft, settledViews_accepting]
      have whole : (SchemaResult.ofDraft (some accepting) dataset (entry.1, .ok views)).ok = true := by
        rw [settled]
        simp [SchemaResult.ok, SchemaResult.finish]
      have created :
          (SchemaResult.ofDraft (some accepting) dataset (entry.1, .ok views)).created ≠ [] := by
        rw [settled]
        change ((SchemaResult.start views.schema).behind views.stages).created ≠ []
        rw [SchemaResult.behind_created]
        exact List.cons_ne_nil _ _
      exact ⟨iff_of_true whole ⟨⟨views, rfl⟩, rfl⟩, iff_of_true created ⟨⟨views, rfl⟩, rfl⟩⟩

/-- The schema shares a view name with another of the batch. -/
def SharesName (t : Target) (dataset : String) (first : Option String)
    (schemas : List (String × Schema)) (entry : String × Schema) : Prop :=
  ∃ view, t.Shares dataset first schemas entry view

/-- A schema that shares a name compiles. -/
theorem SharesName.compiles (shares : t.SharesName dataset first schemas entry) :
    t.Compiles dataset first entry := by
  obtain ⟨view, own, _⟩ := shares
  unfold viewNames at own
  split at own
  · next views done => exact ⟨views, done⟩
  · cases own

/-- The views of a schema are created just where its statements are shown and it shares no name. -/
theorem settle_shown (regular : t.dialect.Regular) (mapping : (schemas.map Prod.fst).Nodup)
    (inside : entry ∈ schemas) :
    ((t.settle (some accepting) dataset first schemas entry).ok = true ↔
      (t.previewOf dataset first entry).ok = true ∧ ¬ t.SharesName dataset first schemas entry) ∧
    ((t.settle (some accepting) dataset first schemas entry).created ≠ [] ↔
      (t.previewOf dataset first entry).ok = true ∧ ¬ t.SharesName dataset first schemas entry) := by
  have settled := t.settle_accepting dataset first schemas entry
  rw [clash_eq_none_iff mapping inside, ← previewOf_ok regular] at settled
  exact settled

end Target

namespace Config

variable {σ τ : Type}

/-- The database of a configuration accepts the views that a batch submits. -/
def Accepted (config : Config) (db : Databases σ τ) (schemas : List (String × Schema)) : Prop :=
  let submitted := config.target.submitted config.dataset config.tablePrefix schemas
  match config.backend with
  | .bigQuery => (BigQuery.manager db.remote (config.bigQueryProjectId.getD "")).Accepts config.dataset
      ⟨false, [], db.remoteState⟩ submitted
  | .duckDb => ∃ opened, db.engine.connect db.engineState config.duckDbPath.text = (.ok (), opened) ∧
      (DuckDb.manager db.engine.toConnection).Accepts config.dataset
        ⟨[.opened config.duckDbPath.text], opened⟩ submitted

/-- A project without tables accepts any batch. -/
theorem accepted_of_fresh {config : Config} (bigQuery : config.backend = .bigQuery)
    (engine : DuckDb.Engine τ) (state : τ) (schemas : List (String × Schema)) :
    config.Accepted ⟨BigQuery.kept, fun _ => none, engine, state⟩ schemas := by
  unfold Accepted
  rw [bigQuery]
  exact BigQuery.kept_accepts _ fun _ _ ⟨_, there, _⟩ => nomatch there

/-- What comes of the schemas in a database that accepts their views. -/
theorem deploy_accepted {config : Config} {db : Databases σ τ} {schemas : List (String × Schema)}
    (accepted : config.Accepted db schemas) (nonempty : schemas ≠ []) :
    (config.deploy db schemas).result = .ok (.ok (schemas.map
      (config.target.settle (some accepting) config.dataset config.tablePrefix schemas))) := by
  unfold Accepted at accepted
  unfold deploy
  cases backend : config.backend with
  | bigQuery =>
    rw [backend] at accepted
    exact congrArg Except.ok
      (Target.deployAll_accepted config.target_regular accepted nonempty)
  | duckDb =>
    rw [backend] at accepted
    obtain ⟨opened, connected, accepts⟩ := accepted
    simp only [DuckDb.Engine.within, connected]
    exact congrArg Except.ok
      (Target.deployAll_accepted config.target_regular accepts nonempty)

section
variable {t : Target} {dataset : String} {first : Option String} {schemas : List (String × Schema)}

/-- Views are created for just the schemas whose statements are shown and that share no name. -/
private theorem created_iff (regular : t.dialect.Regular) (mapping : (schemas.map Prod.fst).Nodup)
    (name : String) :
    (∃ r ∈ schemas.map (t.settle (some accepting) dataset first schemas),
        r.schema = name ∧ r.created ≠ []) ↔
      (∃ p ∈ schemas.map (t.previewOf dataset first), p.schema = name ∧ p.ok = true) ∧
        ¬ ∃ entry ∈ schemas, entry.1 = name ∧ t.SharesName dataset first schemas entry := by
  constructor
  · rintro ⟨r, listed, own, created⟩
    obtain ⟨entry, inside, rfl⟩ := List.mem_map.mp listed
    rw [Target.settle_schema] at own
    obtain ⟨shown, apart⟩ := (Target.settle_shown regular mapping inside).2.mp created
    refine ⟨⟨_, List.mem_map.mpr ⟨entry, inside, rfl⟩, own, shown⟩, ?_⟩
    rintro ⟨other, among, same, shares⟩
    obtain rfl := Target.eq_of_name mapping among inside (same.trans own.symm)
    exact apart shares
  · rintro ⟨⟨p, listed, own, shown⟩, apart⟩
    obtain ⟨entry, inside, rfl⟩ := List.mem_map.mp listed
    refine ⟨_, List.mem_map.mpr ⟨entry, inside, rfl⟩, ?_, ?_⟩
    · exact (Target.settle_schema t _ _ _ _ entry).trans own
    · exact (Target.settle_shown regular mapping inside).2.mpr
        ⟨shown, fun shares => apart ⟨entry, inside, own, shares⟩⟩

/-- All views are created just where all statements are shown and nobody shares a name. -/
private theorem all_ok_iff (regular : t.dialect.Regular) (mapping : (schemas.map Prod.fst).Nodup)
    (dataset : String) (first : Option String) :
    (schemas.map (t.settle (some accepting) dataset first schemas)).all SchemaResult.ok = true ↔
      (schemas.map (t.previewOf dataset first)).all Preview.ok = true ∧
        ¬ ∃ entry ∈ schemas, t.SharesName dataset first schemas entry := by
  have each := fun entry inside =>
    (@Target.settle_shown t dataset first schemas entry regular mapping inside).1
  simp only [List.all_map, List.all_eq_true, Function.comp_apply]
  constructor
  · intro all
    refine ⟨fun entry inside => ((each entry inside).mp (all entry inside)).1, ?_⟩
    rintro ⟨entry, inside, shares⟩
    exact ((each entry inside).mp (all entry inside)).2 shares
  · rintro ⟨shown, apart⟩ entry inside
    exact (each entry inside).mpr ⟨shown entry inside, fun shares => apart ⟨entry, inside, shares⟩⟩

end

section
variable {config : Config} {files : FileTree} {schemas : List (String × Schema)} {db : Databases σ τ}

/-- With schemas that were read, a run does what its configuration asks for. -/
private theorem work_eq (db : Databases σ τ)
    (loaded : (readSchemas files config.schemaFiles).2 = .ok schemas) (nonempty : schemas ≠ [])
    (dry : Bool) (log : Log) :
    ∃ reading, config.work dry log files db =
      let run := if dry then config.dryRun schemas else config.realRun log db schemas
      { run with output := reading ++ run.output } := by
  unfold work
  cases schemas with
  | nil => exact absurd rfl nonempty
  | cons entry rest =>
    simp only [loaded]
    exact ⟨_, rfl⟩

private theorem dryRun_ending {previews : List Preview}
    (previewed : config.target.preview config.dataset config.tablePrefix schemas = (previews, none)) :
    (config.dryRun schemas).output = .concat (previews.map Preview.output) ∧
      (config.dryRun schemas).ending = .status (statusOf (previews.all Preview.ok)) := by
  unfold dryRun
  simp only [previewed, and_self]

private theorem realRun_ending {results : List SchemaResult}
    (deployed : (config.deploy db schemas).result = .ok (.ok results)) (log : Log) :
    (config.realRun log db schemas).ending = .status (statusOf (results.all SchemaResult.ok)) := by
  unfold realRun
  simp only [deployed]

end

/-- Against a database that accepts its views, a run creates the views of just the schemas whose
statements a dry run writes, but for those that share a view name with another: of these it creates
none. If there are such schemas the run fails, and if not it ends with the status of the dry run. -/
theorem dry_run_predicts {config : Config} {files : FileTree} {schemas : List (String × Schema)}
    (loaded : (readSchemas files config.schemaFiles).2 = .ok schemas) (nonempty : schemas ≠ [])
    {db : Databases σ τ} (accepted : config.Accepted db schemas) (log : Log) :
    let shares := config.target.SharesName config.dataset config.tablePrefix schemas
    ∃ (previews : List Preview) (results : List SchemaResult) (dry real : Nat),
      config.target.preview config.dataset config.tablePrefix schemas = (previews, none) ∧
      (∃ reading, (config.work true log files db).output =
        reading ++ .concat (previews.map Preview.output)) ∧
      (config.work true log files db).ending = .status dry ∧
      (config.deploy db schemas).result = .ok (.ok results) ∧
      (config.work false log files db).ending = .status real ∧
      (∀ name, (∃ r ∈ results, r.schema = name ∧ r.created ≠ []) ↔
        (∃ p ∈ previews, p.schema = name ∧ p.ok = true) ∧
          ¬ ∃ entry ∈ schemas, entry.1 = name ∧ shares entry) ∧
      ((∃ entry ∈ schemas, shares entry) → real = 1) ∧
      ((¬ ∃ entry ∈ schemas, shares entry) → real = dry) := by
  intro shares
  have regular := config.target_regular
  have mapping := nodup_readSchemas loaded
  have previewed := Target.preview_eq regular config.dataset config.tablePrefix schemas
  have deployed := deploy_accepted accepted nonempty
  have whole := all_ok_iff regular mapping config.dataset config.tablePrefix
  obtain ⟨reading, dryWork⟩ := work_eq db loaded nonempty true log
  obtain ⟨_, realWork⟩ := work_eq db loaded nonempty false log
  obtain ⟨shown, dryEnd⟩ := dryRun_ending previewed
  have dry := (congrArg WorkReport.ending dryWork).trans dryEnd
  have real := (congrArg WorkReport.ending realWork).trans (realRun_ending deployed log)
  refine ⟨_, _, _, _, previewed, ⟨reading, ?_⟩, dry, deployed, real,
    created_iff regular mapping, ?_, ?_⟩
  · rw [dryWork, ← shown]
    rfl
  · intro sharing
    exact if_neg fun all => (whole.mp all).2 sharing
  · intro apart
    refine congrArg statusOf (Bool.eq_iff_iff.mpr ?_)
    rw [whole]
    exact and_iff_left apart

/-- A schema file that declares no fields. -/
def oneFile : FileTree where
  base := ["home"]
  homes := []
  entries := [(["home", "s.json"], .file [0x7b, 0x7d])]

/-- A configuration for DuckDB that reads this file. -/
def ofOneFile : Config :=
  ⟨none, none, some "d", some "f", ["s.json"], .duckDb, .ofText "f.duckdb", .standard⟩

private theorem expand_oneFile :
    expandPatterns oneFile.view ["s.json"] = ([], .ok [⟨"/", ["home", "s.json"]⟩]) := by
  have written : Text.trim "s.json" ≠ "" := by decide
  have found : oneFile.view.glob ⟨"", ["s.json"]⟩ = .ok ["s.json"] := rfl
  exact expandPatterns_once written rfl found rfl

private theorem load_oneFile : loadFile oneFile ⟨"/", ["home", "s.json"]⟩ = .ok ⟨[]⟩ :=
  loadFile_braces rfl rfl

theorem oneFile_loaded : (readSchemas oneFile ofOneFile.schemaFiles).2 = .ok [("s", ⟨[]⟩)] := by
  unfold readSchemas
  rw [show ofOneFile.schemaFiles = ["s.json"] from rfl, expand_oneFile]
  simp only [readFiles, load_oneFile]
  rfl

theorem oneFile_predicted :
    (readSchemas oneFile ofOneFile.schemaFiles).2 = .ok [("s", ⟨[]⟩)] ∧
    ofOneFile.Accepted ⟨BigQuery.updatable, (), DuckDb.willing, ()⟩ [("s", ⟨[]⟩)] ∧
    ∃ status,
      (ofOneFile.work true .silent oneFile ⟨BigQuery.updatable, (), DuckDb.willing, ()⟩).ending =
        .status status ∧
      (ofOneFile.work false .silent oneFile ⟨BigQuery.updatable, (), DuckDb.willing, ()⟩).ending =
        .status status := by
  have accepted : ofOneFile.Accepted ⟨BigQuery.updatable, (), DuckDb.willing, ()⟩ [("s", ⟨[]⟩)] :=
    ⟨(), rfl, ViewManager.accepts_of_steady (DuckDb.steady_of_accepts fun _ _ => rfl) _ _ _⟩
  obtain ⟨_, _, dry, real, _, _, dryEnd, _, realEnd, _, _, agree⟩ :=
    dry_run_predicts oneFile_loaded (List.cons_ne_nil _ _) accepted .silent
  refine ⟨oneFile_loaded, accepted, dry, dryEnd, ?_⟩
  rw [realEnd, agree]
  rintro ⟨entry, inside, view, _, other, among, differs, _⟩
  rw [List.mem_singleton.mp inside, List.mem_singleton.mp among] at differs
  exact differs rfl

/-- Two schemas that share a view name. -/
def overlapping : List (String × Schema) :=
  [("a", ⟨[.ofKind (.ofString "b_latest") .array]⟩), ("a_latest_b", ⟨[]⟩)]

/-- A dry run succeeds where a run in a database that accepts its views fails and creates nothing. -/
theorem overlapping_not_predicted :
    (overlapping.map Prod.fst).Nodup ∧
    ofOneFile.Accepted ⟨BigQuery.updatable, (), DuckDb.willing, ()⟩ overlapping ∧
    (ofOneFile.dryRun overlapping).ending = .status 0 ∧
    (ofOneFile.realRun .silent ⟨BigQuery.updatable, (), DuckDb.willing, ()⟩ overlapping).ending =
      .status 1 ∧
    (ofOneFile.realRun .silent ⟨BigQuery.updatable, (), DuckDb.willing, ()⟩ overlapping).traffic =
      .duckDb [.opened "f.duckdb", .closed] := by
  have accepted : ofOneFile.Accepted ⟨BigQuery.updatable, (), DuckDb.willing, ()⟩ overlapping :=
    ⟨(), rfl, ViewManager.accepts_of_steady (DuckDb.steady_of_accepts fun _ _ => rfl) _ _ _⟩
  refine ⟨by decide, accepted, ?_, ?_, ?_⟩
  · simp only [overlapping, dryRun, Target.preview, Target.schemaStatements, Target.compile,
      Target.layOut_eq]
    rfl
  · simp only [overlapping, realRun, deploy, DuckDb.Engine.within, Target.deployAll, Target.drafts,
      Target.compile, Target.layOut_eq]
    rfl
  · simp only [overlapping, realRun, deploy, DuckDb.Engine.within, Target.deployAll, Target.drafts,
      Target.compile, Target.layOut_eq]
    rfl

end Config
end ChangelogViews
