import ChangelogViews.Proofs.Batch.Settled
import ChangelogViews.Proofs.Batch.Submissions
import ChangelogViews.Store.BigQuery
import ChangelogViews.Store.DuckDb

/-!
# Acceptance

A database may be ready to take the views that a batch asks for, each behind those before it. The batch is
then settled as it would be by a manager that has no state and accepts every view
(`Target.deployAll_accepted`).
-/

namespace ChangelogViews

/-- Every view is accepted. -/
def accepting : Verdicts := fun _ _ _ => .ok ()

theorem reached_accepting (dataset : String) (result : SchemaResult) (stages : List (View × Stage)) :
    reached accepting dataset result stages = (result.behind stages, none) := by
  induction stages generalizing result with
  | nil => rfl
  | cons first rest ih => exact ih (result.advance first.1.name first.2)

theorem settledViews_accepting (dataset : String) (views : SchemaViews) :
    settledViews (some accepting) dataset views =
      (((SchemaResult.start views.schema).behind views.stages).finish, none) := by
  unfold settledViews
  simp only [reached_accepting]

namespace ViewManager

variable {σ : Type} {m : ViewManager σ} {dataset : String}

/-- The state after some views were asked for. -/
def after (m : ViewManager σ) (dataset : String) (state : σ) (asked : List View) : σ :=
  asked.foldl (fun s view => (m.create s dataset view.name view.sql).state) state

/-- The manager creates each of some views of the dataset in order from a state on. -/
def Accepts (m : ViewManager σ) (dataset : String) (state : σ) : List View → Prop
  | [] => True
  | view :: rest => (m.create state dataset view.name view.sql).result = .ok () ∧
      m.Accepts dataset (m.create state dataset view.name view.sql).state rest

theorem accepts_append {state : σ} {views later : List View} :
    m.Accepts dataset state (views ++ later) ↔
      m.Accepts dataset state views ∧ m.Accepts dataset (m.after dataset state views) later := by
  induction views generalizing state with
  | nil => exact ⟨fun accepts => ⟨trivial, accepts⟩, And.right⟩
  | cons view rest ih =>
    simp only [List.cons_append, Accepts, ih, and_assoc]
    rfl

theorem accepts_of_steady (steady : m.Steady accepting) (dataset : String) (state : σ)
    (views : List View) : m.Accepts dataset state views := by
  induction views generalizing state with
  | nil => trivial
  | cons view rest ih => exact ⟨steady state dataset view.name view.sql, ih _⟩

/-- The manager that has no state and accepts every view. -/
def acceptor : ViewManager Unit := ⟨fun _ _ _ _ => ⟨(), [], .ok ()⟩⟩

theorem installEach_accepted {state : σ} {stages : List (View × Stage)}
    (accepts : m.Accepts dataset state (stages.map Prod.fst)) (result : SchemaResult) :
    let run := m.installEach dataset result state stages
    run.result = (result.behind stages, none) ∧
      run.state = m.after dataset state (stages.map Prod.fst) := by
  induction stages generalizing result state with
  | nil => exact ⟨rfl, rfl⟩
  | cons first rest ih =>
    obtain ⟨view, stage⟩ := first
    obtain ⟨created, later⟩ := accepts
    obtain ⟨ended, behind⟩ := ih later (result.advance view.name stage)
    simp only [installEach, submit, created]
    exact ⟨ended, behind⟩

/-- A manager that accepts the views of a schema installs them all. -/
theorem install_accepted {views : SchemaViews} {state : σ}
    (accepts : m.Accepts dataset state views.all) :
    (m.install dataset views state).result =
        (((SchemaResult.start views.schema).behind views.stages).finish, none) ∧
      (m.install dataset views state).state = m.after dataset state views.all := by
  rw [← views.views_of_stages] at accepts ⊢
  obtain ⟨ended, behind⟩ := installEach_accepted accepts (.start views.schema)
  unfold install
  simp only [ended]
  exact ⟨trivial, behind⟩

end ViewManager

/-- The views that are asked for when a draft is installed. -/
def Draft.views : Draft → List View
  | (_, .ok views) => views.all
  | (_, .error _) => []

theorem installDrafts_accepted {σ : Type} {m : ViewManager σ} {dataset : String} {state : σ}
    {drafts : List Draft} (accepts : m.Accepts dataset state (drafts.flatMap Draft.views)) :
    (installDrafts (some m) dataset state drafts).result =
      .ok (drafts.map (SchemaResult.ofDraft (some accepting) dataset)) := by
  induction drafts generalizing state with
  | nil => rfl
  | cons first rest ih =>
    obtain ⟨own, later⟩ := ViewManager.accepts_append.mp accepts
    obtain ⟨name, draft⟩ := first
    cases draft with
    | error e =>
      have others : (installDrafts (some m) dataset state rest).result = _ := ih later
      simp only [installDrafts, others]
      rfl
    | ok views =>
      obtain ⟨ended, behind⟩ := ViewManager.install_accepted own
      have others : (installDrafts (some m) dataset (m.after dataset state views.all) rest).result = _ :=
        ih later
      simp only [installDrafts, ViewManager.installIn, ended, behind, others, List.map_cons,
        SchemaResult.ofDraft, settledViews_accepting]
      rfl

namespace Target

variable {σ : Type} {t : Target}

/-- The views that a batch submits where none is refused: those of the schemas that compile and share no
name with another, in order. -/
def submitted (t : Target) (dataset : String) (first : Option String)
    (schemas : List (String × Schema)) : List View :=
  (schemas.map (t.finalDraft dataset first schemas)).flatMap Draft.views

theorem deployAll_accepted (regular : t.dialect.Regular) {m : ViewManager σ} {dataset : String}
    {first : Option String} {schemas : List (String × Schema)} {start : σ}
    (accepts : m.Accepts dataset start (t.submitted dataset first schemas)) (nonempty : schemas ≠ []) :
    (t.deployAll (some m) dataset first schemas start).result =
      .ok (schemas.map (t.settle (some accepting) dataset first schemas)) := by
  have drafted := drafts_result regular dataset first schemas
  rw [(deployAll_installs nonempty drafted start).result, installDrafts_accepted accepts, List.map_map]
  refine congrArg Except.ok (List.map_congr_left fun entry _ => ?_)
  exact (settle_eq t (some accepting) dataset first schemas entry).symm

end Target

namespace DuckDb

theorem steady_of_accepts {σ : Type} {connection : Connection σ}
    (accepts : ∀ state statement, (connection.execute state statement).1 = .ok ()) :
    (manager connection).Steady accepting := by
  intro session dataset view query
  simp only [manager, accepts]
  rfl

/-- A database that executes every statement. -/
def willing : Engine Unit where
  execute state _ := (.ok (), state)
  connect state _ := (.ok (), state)

end DuckDb

namespace BigQuery

/-- A project in which all views are there already and can be updated. -/
def updatable : Remote Unit where
  connect state _ := (.ok (), state)
  getTable state id := (.ok ⟨id, "VIEW"⟩, state)
  newTable _ := .ok ()
  createTable state _ _ := (.ok (), state)
  updateTable state _ _ := (.ok (), state)

theorem updatable_findsAsked : updatable.FindsAsked := by
  rintro state id table ⟨⟩
  rfl

theorem updatable_steady (project : String) : (manager updatable project).Steady accepting := by
  rintro ⟨connected, sent, ⟨⟩⟩ dataset view query
  cases connected with
  | true => rfl
  | false => rfl

end BigQuery
end ChangelogViews
