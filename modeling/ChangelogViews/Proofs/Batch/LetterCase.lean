import ChangelogViews.Proofs.Batch.Acceptance
import ChangelogViews.Proofs.Batch.Isolation
import ChangelogViews.Proofs.Batch.Progress
import ChangelogViews.Proofs.Views.Spellings

/-!
# Letter case in a batch

The views that a manager is asked for in a batch have names of their own, whatever it replies, and the
columns of each view have aliases of their own. Both are told apart letter by letter. A database that passes
over letter case can tell them apart too where no word of the given names is spelled in two ways
(`Target.apart_up_to_case`), and may replace a view by another where some are
(`Target.casedBatch_not_apart`).
-/

namespace ChangelogViews

namespace ViewManager

variable {σ : Type}

/-- The views of a list are submitted in order, as far as the manager comes with them. -/
theorem installEach_submitted (m : ViewManager σ) (dataset : String) (result : SchemaResult) (state : σ)
    (record : List Submission) (stages : List (View × Stage)) :
    ∃ asked, asked <+: stages.map (·.1.name) ∧
      (m.recorded.installEach dataset result (state, record) stages).state.2.map Submission.view =
        record.map Submission.view ++ asked := by
  induction stages generalizing result state record with
  | nil => exact ⟨[], List.prefix_rfl, (List.append_nil _).symm⟩
  | cons first rest ih =>
    obtain ⟨view, stage⟩ := first
    simp only [installEach, submit, recorded]
    cases (m.create state dataset view.name view.sql).result with
    | error failure =>
      refine ⟨[view.name], ⟨rest.map (·.1.name), rfl⟩, ?_⟩
      cases failure <;> exact List.map_append
    | ok done =>
      obtain ⟨asked, inOrder, kept⟩ := ih (result.advance view.name stage)
        (m.create state dataset view.name view.sql).state
        (record ++ [⟨dataset, view.name, view.sql, .ok done⟩])
      refine ⟨view.name :: asked, List.cons_prefix_cons.mpr ⟨rfl, inOrder⟩, ?_⟩
      rw [List.map_append, List.append_assoc] at kept
      exact kept

/-- So are the views of a schema, if there is a manager. -/
theorem installIn_submitted (m : Option (ViewManager σ)) (dataset : String) (views : SchemaViews)
    (state : σ) (record : List Submission) :
    ∃ asked, asked <+: views.all.map View.name ∧
      (installIn (m.map recorded) dataset views (state, record)).state.2.map Submission.view =
        record.map Submission.view ++ asked := by
  cases m with
  | none => exact ⟨[], List.nil_prefix, (List.append_nil _).symm⟩
  | some m =>
    obtain ⟨asked, inOrder, kept⟩ :=
      m.installEach_submitted dataset (.start views.schema) state record views.stages
    refine ⟨asked, ?_, ?_⟩
    · rw [← views.views_of_stages, List.map_map]
      exact inOrder
    · simp only [Option.map_some, installIn, install]
      split
      · exact kept
      · exact kept

end ViewManager

/-- The names of the views that were compiled for some drafts, in order. -/
def viewsOf (drafts : List Draft) : List String :=
  drafts.flatMap fun draft => (SchemaViews.defined draft.2.toOption).map View.name

/-- Nothing is submitted but views that were compiled, in their order and each at most as often. -/
theorem installDrafts_submitted {σ : Type} (m : Option (ViewManager σ)) (dataset : String) (state : σ)
    (record : List Submission) (drafts : List Draft) :
    ∃ asked, asked.Sublist (viewsOf drafts) ∧
      (installDrafts (m.map ViewManager.recorded) dataset (state, record) drafts).state.2.map
        Submission.view = record.map Submission.view ++ asked := by
  induction drafts generalizing state record with
  | nil => exact ⟨[], .slnil, (List.append_nil _).symm⟩
  | cons draft rest ih =>
    obtain ⟨name, drafted⟩ := draft
    cases drafted with
    | error e => exact ih state record
    | ok views =>
      obtain ⟨own, inOrder, kept⟩ := ViewManager.installIn_submitted m dataset views state record
      unfold installDrafts
      generalize ViewManager.installIn (m.map ViewManager.recorded) dataset views (state, record) = run
        at kept
      obtain ⟨⟨state', record'⟩, logs, installed⟩ := run
      obtain ⟨asked, others, later⟩ := ih state' record'
      have both : (own ++ asked).Sublist (viewsOf ((name, .ok views) :: rest)) :=
        inOrder.sublist.append others
      have behind := later.trans (congrArg (· ++ asked) kept)
      rw [List.append_assoc] at behind
      obtain ⟨result, _ | e | fault | failure⟩ := installed
      · exact ⟨own ++ asked, both, behind⟩
      · exact ⟨own ++ asked, both, behind⟩
      -- any other failure ends the batch
      · exact ⟨own, inOrder.sublist.trans (List.sublist_append_left _ _), kept⟩
      · exact ⟨own, inOrder.sublist.trans (List.sublist_append_left _ _), kept⟩

namespace Target

variable {σ : Type} {t : Target} {dataset : String} {first : Option String}
  {schemas : List (String × Schema)}

/-- The names of the views that a batch installs if the manager refuses none, in order. -/
def planned (t : Target) (dataset : String) (first : Option String)
    (schemas : List (String × Schema)) : List String :=
  viewsOf (schemas.map (t.finalDraft dataset first schemas))

theorem deployAll_submitted (regular : t.dialect.Regular) (m : Option (ViewManager σ))
    (dataset : String) (first : Option String) (schemas : List (String × Schema)) (state : σ) :
    ((t.deployAll (m.map ViewManager.recorded) dataset first schemas (state, [])).state.2.map
      Submission.view).Sublist (t.planned dataset first schemas) := by
  cases schemas with
  | nil => exact .slnil
  | cons entry rest =>
    have drafted := drafts_result regular dataset first (entry :: rest)
    obtain ⟨asked, part, kept⟩ := installDrafts_submitted m dataset state []
      ((entry :: rest).map (t.finalDraft dataset first (entry :: rest)))
    rw [(deployAll_installs (List.cons_ne_nil _ _) drafted _).state, kept]
    exact part

private theorem mem_finalDraft {entry : String × Schema} {name : String}
    (inside : name ∈ (SchemaViews.defined (t.finalDraft dataset first schemas entry).2.toOption).map
      View.name) :
    member? (t.clashes dataset first schemas) entry.1 = none ∧
      ∃ views, t.compile dataset first (some entry.1) entry.2 none = .ok views ∧
        ∃ view ∈ views.all, view.name = name := by
  cases laid : (t.finalDraft dataset first schemas entry).2 with
  | error e => rw [laid] at inside; cases inside
  | ok views =>
    rw [laid] at inside
    obtain ⟨quiet, done⟩ := finalDraft_ok laid
    exact ⟨quiet, views, done, List.mem_map.mp inside⟩

/-- No two views have one name, since a schema that shares one is not installed. -/
theorem planned_nodup (mapping : (schemas.map Prod.fst).Nodup) :
    (t.planned dataset first schemas).Nodup := by
  rw [planned, viewsOf, List.flatMap_map, List.nodup_flatMap]
  constructor
  · intro entry _
    cases laid : (t.finalDraft dataset first schemas entry).2 with
    | error e => exact List.nodup_nil
    | ok views => exact nodup_of_compile (finalDraft_ok laid).2
  · refine mapping.of_map.pairwise_of_forall_ne fun a inA b inB differs name own other => ?_
    obtain ⟨quiet, views, done, view, among, rfl⟩ := mem_finalDraft own
    obtain ⟨_, views', done', view', among', same⟩ := mem_finalDraft other
    have shared : t.Shares dataset first schemas a view.name := by
      refine ⟨?_, b, inB, fun equal => differs (eq_of_name mapping inA inB equal.symm), ?_⟩
      · rw [viewNames_of_compile done]
        exact List.mem_map_of_mem among
      · rw [viewNames_of_compile done', ← same]
        exact List.mem_map_of_mem among'
    exact clash_of_shares inA shared quiet

/-- Where each word is spelled in one way the names differ up to letter case too. What they begin with
may be spelled in any way, since they all begin with it. -/
theorem planned_nodup_caseless (regular : t.dialect.Regular) (mapping : (schemas.map Prod.fst).Nodup)
    (once : OneSpelling (viewParts schemas)) :
    ((t.planned dataset first schemas).map caseless).Nodup := by
  have parts : ∀ name ∈ t.planned dataset first schemas, ∃ rest,
      name = Names.part first ++ "_schema_" ++ rest ∧ ComposedOf (viewParts schemas) rest := by
    intro name inside
    rw [planned, viewsOf, List.flatMap_map] at inside
    obtain ⟨entry, listed, own⟩ := List.mem_flatMap.mp inside
    obtain ⟨_, views, done, view, among, rfl⟩ := mem_finalDraft own
    exact viewName_composed regular done listed view among
  refine List.Nodup.map_on (fun a inA b inB same => ?_) (planned_nodup mapping)
  obtain ⟨rest, rfl, composed⟩ := parts a inA
  obtain ⟨rest', rfl, composed'⟩ := parts b inB
  rw [caseless_append, caseless_append _ rest'] at same
  rw [once.eq_of_caseless composed composed' (List.append_cancel_left same)]

end Target

/-- The columns of the changelog have names of their own up to letter case, and no ordinal of an array has the
alias of the document name. -/
structure ChangelogLayout.Clear (layout : ChangelogLayout) (schemas : List (String × Schema)) :
    Prop where
  columns : (layout.snapshotColumns.map caseless).Nodup
  positions : ∀ entry ∈ schemas, ∀ n ∈ entry.2.arrayNodes, layout.documentName ∉ n.indices

/-- The standard layout is clear of whatever arrays there are. -/
theorem ChangelogLayout.standard_clear (schemas : List (String × Schema)) : standard.Clear schemas := by
  refine ⟨by decide, fun entry _ n _ position => ?_⟩
  obtain ⟨a, _, same⟩ := List.mem_map.mp position
  have last := congrArg (fun name => name.toList.getLast?) same
  have index : a.index.toList = (joined a.keyPath).toList ++ "_index".toList := String.toList_append
  rw [index, List.getLast?_append] at last
  cases last

namespace Target

/-- In a batch no two views of one name are submitted, whatever the manager replies, and up to letter case
none are where each word of the names of schemas and of the key paths of their arrays is spelled in one way.
No compiled view of a clear layout has two columns of one name, and up to letter case none has where each
word of the field names in its schema is spelled in one way. -/
theorem apart_up_to_case {σ : Type} {t : Target} (shipped : t.dialect ∈ Sql.dialects)
    (m : Option (ViewManager σ)) (dataset : String) (first : Option String)
    {schemas : List (String × Schema)} (mapping : (schemas.map Prod.fst).Nodup) (state : σ) :
    let record := (t.deployAll (m.map ViewManager.recorded) dataset first schemas (state, [])).state.2
    (record.map Submission.view).Nodup ∧
    (OneSpelling (viewParts schemas) → (record.map fun s => caseless s.view).Nodup) ∧
    (t.layout.Clear schemas → ∀ entry ∈ schemas, ∀ views,
      t.compile dataset first (some entry.1) entry.2 none = .ok views → ∀ view ∈ views.all,
        view.query.outputs.Nodup ∧
        (OneSpelling (entry.2.columnParts t.layout) → (view.query.outputs.map caseless).Nodup)) := by
  have regular := Sql.Dialect.regular_of_mem shipped
  have submitted := t.deployAll_submitted regular m dataset first schemas state
  refine ⟨submitted.nodup (planned_nodup mapping), fun once => ?_, ?_⟩
  · have names := (submitted.map caseless).nodup (planned_nodup_caseless regular mapping once)
    rw [List.map_map] at names
    exact names
  · intro clear entry inside views done
    exact outputs_apart regular done clear.columns (clear.positions entry inside)

/-- Two schemas with names in camel case, the first with an array. One field is spelled in two ways, each in
a schema of its own. -/
def camelBatch : List (String × Schema) :=
  let lines := { Field.ofKind (.ofString "orderLines") .array with
    fields := some [Field.ofKind (.ofString "unitPrice") .number] }
  [("userOrders", ⟨[Field.ofKind (.ofString "userId") .string, lines]⟩),
   ("userProfiles", ⟨[Field.ofKind (.ofString "userID") .string,
      Field.ofKind (.ofString "homeTown") .geopoint]⟩)]

theorem camelBatch_apart :
    Sql.DuckDb.dialect ∈ Sql.dialects ∧ (camelBatch.map Prod.fst).Nodup ∧
    ChangelogLayout.standard.Clear camelBatch ∧ OneSpelling (viewParts camelBatch) ∧
    (∀ entry ∈ camelBatch, OneSpelling (entry.2.columnParts .standard)) ∧
    ∃ record, (deployAll ⟨Sql.DuckDb.dialect, "p", .standard⟩ (some ViewManager.acceptor.recorded) "d"
        (some "F") camelBatch ((), [])).state.2 = record ∧
      record.map Submission.view =
        ["F_schema_userOrders_latest_snapshot", "F_schema_userOrders_latest",
          "F_schema_userOrders_latest_orderLines", "F_schema_userProfiles_latest_snapshot",
          "F_schema_userProfiles_latest"] ∧
      (record.map fun s => caseless s.view).Nodup ∧
      ∀ entry ∈ camelBatch, ∀ views,
        compile ⟨Sql.DuckDb.dialect, "p", .standard⟩ "d" (some "F") (some entry.1) entry.2 none =
          .ok views → ∀ view ∈ views.all, (view.query.outputs.map caseless).Nodup := by
  have shipped : Sql.DuckDb.dialect ∈ Sql.dialects := by simp [Sql.dialects]
  have mapping : (camelBatch.map Prod.fst).Nodup := by decide
  have clear := ChangelogLayout.standard_clear camelBatch
  have views : OneSpelling (viewParts camelBatch) := by decide
  have columns : ∀ entry ∈ camelBatch, OneSpelling (entry.2.columnParts .standard) := by decide
  obtain ⟨_, names, labels⟩ := apart_up_to_case (t := ⟨Sql.DuckDb.dialect, "p", .standard⟩) shipped
    (some ViewManager.acceptor) "d" (some "F") mapping ()
  refine ⟨shipped, mapping, clear, views, columns, _, rfl, ?_, names views, ?_⟩
  · simp only [camelBatch, deployAll, drafts, compile, layOut_eq]
    rfl
  · intro entry inside laidOut done view among
    exact (labels clear entry inside laidOut done view among).2 (columns entry inside)

/-- Two schemas whose names differ in letter case alone, the first with two such fields. -/
def casedBatch : List (String × Schema) :=
  [("users", ⟨[Field.ofKind (.ofString "a") .string, Field.ofKind (.ofString "A") .string]⟩),
   ("Users", ⟨[]⟩)]

/-- Views and columns whose names differ in letter case alone are accepted, so a database that passes over
it keeps the views of one of two schemas, and both are reported as done. -/
theorem casedBatch_not_apart :
    (deployAll ⟨Sql.DuckDb.dialect, "p", .standard⟩ (some ViewManager.acceptor) "d" (some "f") casedBatch
      ()).result.map (·.map SchemaResult.stage) = .ok [.done, .done] ∧
    ¬ ((deployAll ⟨Sql.DuckDb.dialect, "p", .standard⟩ (some ViewManager.acceptor.recorded) "d" (some "f")
      casedBatch ((), [])).state.2.map fun s => caseless s.view).Nodup ∧
    ∃ views, compile ⟨Sql.DuckDb.dialect, "p", .standard⟩ "d" (some "f") (some "users")
        ⟨[Field.ofKind (.ofString "a") .string, Field.ofKind (.ofString "A") .string]⟩ none = .ok views ∧
      views.top.query.outputs = ["document_name", "a", "A"] ∧
      ¬ (views.top.query.outputs.map caseless).Nodup := by
  have record : (deployAll ⟨Sql.DuckDb.dialect, "p", .standard⟩ (some ViewManager.acceptor.recorded) "d"
      (some "f") casedBatch ((), [])).state.2.map Submission.view =
        ["f_schema_users_latest_snapshot", "f_schema_users_latest",
          "f_schema_Users_latest_snapshot", "f_schema_Users_latest"] := by
    simp only [casedBatch, deployAll, drafts, compile, layOut_eq]
    rfl
  refine ⟨?_, ?_, ?_⟩
  · simp only [casedBatch, deployAll, drafts, compile, layOut_eq]
    rfl
  · have names := congrArg (List.map caseless) record
    rw [List.map_map] at names
    change ¬ (List.map (caseless ∘ Submission.view) _).Nodup
    rw [names]
    decide
  · unfold compile
    rw [layOut_eq]
    exact ⟨_, rfl, by decide, by decide⟩

end Target
end ChangelogViews
