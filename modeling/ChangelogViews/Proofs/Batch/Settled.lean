import ChangelogViews.Proofs.Batch.Replies
import ChangelogViews.Proofs.Batch.Sharing
import ChangelogViews.Proofs.Views.Parity

/-!
# Settled batches

A steady view manager decides by the view alone. Under such a manager, and in a regular dialect, a
batch has one result for each schema, which can be told from what the schema compiles to and from the
error that sharing a name gave to it (`Target.deployAll_eq`). No state is asked for.
-/

namespace ChangelogViews

/-- What a database verdicts when a view is to be created. -/
abbrev Verdicts := (dataset view query : String) → Except ViewError Unit

/-- The manager verdicts as `verdicts` tells whatever was done before, and so fails with errors of the
family only. -/
def ViewManager.Steady {σ : Type} (m : ViewManager σ) (verdicts : Verdicts) : Prop :=
  ∀ state dataset view query, (m.create state dataset view query).result =
    orStop (verdicts dataset view query)

/-- The verdict on one view of a schema, with their names on an error. -/
def verdictOn (verdicts : Verdicts) (dataset schema : String) (view : View) : Except ViewError Unit :=
  (verdicts dataset view.name view.sql).mapError (·.addContext ⟨some schema, some view.name, none⟩)

/-- How far the views of a schema come, and the error that ends it. -/
def reached (verdicts : Verdicts) (dataset : String) (result : SchemaResult) :
    List (View × Stage) → SchemaResult × Option ViewError
  | [] => (result, none)
  | (view, stage) :: rest =>
    match verdictOn verdicts dataset result.schema view with
    | .error e => (result, some e)
    | .ok () => reached verdicts dataset (result.advance view.name stage) rest

/-- How far a schema comes where there may be no database. -/
def settledViews (verdicts : Option Verdicts) (dataset : String) (views : SchemaViews) :
    SchemaResult × Option ViewError :=
  match verdicts with
  | none => (.start views.schema, some ⟨.noManager none, ⟨some views.schema, none, none⟩⟩)
  | some verdicts =>
    match reached verdicts dataset (.start views.schema) views.stages with
    | (result, some e) => (result, some e)
    | (result, none) => (result.finish, none)

theorem reached_schema (verdicts : Verdicts) (dataset : String) (result : SchemaResult)
    (stages : List (View × Stage)) :
    (reached verdicts dataset result stages).1.schema = result.schema := by
  induction stages generalizing result with
  | nil => rfl
  | cons first rest ih =>
    obtain ⟨view, stage⟩ := first
    unfold reached
    split
    · rfl
    · exact ih (result.advance view.name stage)

theorem settledViews_schema (verdicts : Option Verdicts) (dataset : String) (views : SchemaViews) :
    (settledViews verdicts dataset views).1.schema = views.schema := by
  unfold settledViews
  split
  · rfl
  · next verdicts =>
    have kept := reached_schema verdicts dataset (.start views.schema) views.stages
    split
    · next ended => rw [ended] at kept; exact kept
    · next ended => rw [ended] at kept; exact kept

namespace ViewManager

variable {σ : Type} {m : ViewManager σ} {verdicts : Verdicts}

theorem submit_result (steady : m.Steady verdicts) (dataset schema : String) (view : View) (state : σ) :
    (m.submit dataset schema view state).result = orStop (verdictOn verdicts dataset schema view) := by
  unfold submit verdictOn
  simp only [steady state dataset view.name view.sql]
  cases verdicts dataset view.name view.sql with
  | error e => rfl
  | ok done => rfl

theorem installEach_result (steady : m.Steady verdicts) (dataset : String) (result : SchemaResult)
    (state : σ) (stages : List (View × Stage)) :
    (m.installEach dataset result state stages).result =
      ((reached verdicts dataset result stages).1,
        (reached verdicts dataset result stages).2.map Failure.views) := by
  induction stages generalizing result state with
  | nil => rfl
  | cons first rest ih =>
    obtain ⟨view, stage⟩ := first
    unfold installEach reached
    simp only [submit_result steady]
    cases verdictOn verdicts dataset result.schema view with
    | error e => rfl
    | ok done => exact ih (result.advance view.name stage) _

/-- What is installed of a schema depends on the verdicts alone. -/
theorem installIn_result {m : Option (ViewManager σ)} (steady : ∀ manager ∈ m, manager.Steady verdicts)
    (dataset : String) (views : SchemaViews) (state : σ) :
    (installIn m dataset views state).result =
      ((settledViews (m.map fun _ => verdicts) dataset views).1,
        (settledViews (m.map fun _ => verdicts) dataset views).2.map Failure.views) := by
  cases m with
  | none => rfl
  | some manager =>
    have each := installEach_result (steady manager rfl) dataset (.start views.schema) state views.stages
    simp only [installIn, install, settledViews, Option.map_some, each]
    cases reached verdicts dataset (.start views.schema) views.stages with
    | mk result ended =>
      cases ended with
      | none => rfl
      | some e => rfl

end ViewManager

/-- A failure as an error of a schema. Only errors of the family are failures of regular dialects. -/
def Failure.error : Failure → ViewError
  | .views e => e
  | .sql fault => .of (.general fault.message)
  | .foreign failure => .of (.general failure.message)

namespace Target

variable {t : Target}

/-- What a schema of a batch compiles to. -/
def draft (t : Target) (dataset : String) (first : Option String) (entry : String × Schema) : Draft :=
  (entry.1, (t.compile dataset first (some entry.1) entry.2 none).mapError Failure.error)

theorem drafts_result (regular : t.dialect.Regular) (dataset : String) (first : Option String)
    (schemas : List (String × Schema)) :
    (t.drafts dataset first schemas).2 = .ok (schemas.map (t.draft dataset first)) := by
  induction schemas with
  | nil => rfl
  | cons entry rest ih =>
    obtain ⟨name, schema⟩ := entry
    unfold drafts
    rw [List.map_cons, draft]
    cases compiled : t.compile dataset first (some name) schema none with
    | ok views =>
      simp only [ih]
      rfl
    | error failure =>
      obtain ⟨e, rfl⟩ := compile_failure regular compiled
      simp only [ih]
      rfl

/-- The view names of a schema of a batch. One that does not compile has none. -/
def viewNames (t : Target) (dataset : String) (first : Option String) (entry : String × Schema) :
    List String :=
  match t.compile dataset first (some entry.1) entry.2 none with
  | .ok views => views.all.map View.name
  | .error _ => []

theorem viewNames_of_compile {dataset : String} {first : Option String} {entry : String × Schema}
    {views : SchemaViews}
    (done : t.compile dataset first (some entry.1) entry.2 none = .ok views) :
    t.viewNames dataset first entry = views.all.map View.name := by
  unfold viewNames
  rw [done]

/-- The view names that the schemas of a batch mention, in order. -/
def mentions (t : Target) (dataset : String) (first : Option String)
    (schemas : List (String × Schema)) : List (String × String) :=
  schemas.flatMap fun entry => (t.viewNames dataset first entry).map fun view => (entry.1, view)

theorem mentions_of_drafts (t : Target) (dataset : String) (first : Option String)
    (schemas : List (String × Schema)) :
    Sharing.mentions (laidOut (schemas.map (t.draft dataset first))) =
      t.mentions dataset first schemas := by
  induction schemas with
  | nil => rfl
  | cons entry rest ih =>
    unfold mentions at ih ⊢
    rw [List.map_cons, List.flatMap_cons, ← ih, viewNames, draft]
    cases t.compile dataset first (some entry.1) entry.2 none with
    | error failure => rfl
    | ok views =>
      rw [List.map_map]
      rfl

def clashes (t : Target) (dataset : String) (first : Option String)
    (schemas : List (String × Schema)) : List (String × ViewError) :=
  (Sharing.noteAll ⟨[], []⟩ (t.mentions dataset first schemas)).clashes

/-- What a schema of a batch compiles to, or the error of a view name that it shares. -/
def finalDraft (t : Target) (dataset : String) (first : Option String)
    (schemas : List (String × Schema)) (entry : String × Schema) : Draft :=
  match member? (t.clashes dataset first schemas) entry.1 with
  | some e => (entry.1, .error e)
  | none => t.draft dataset first entry

/-- The drafts of a batch with the errors of shared names. -/
theorem withClashes_drafts (t : Target) (dataset : String) (first : Option String)
    (schemas : List (String × Schema)) :
    withClashes (Sharing.of (laidOut (schemas.map (t.draft dataset first)))).clashes
        (schemas.map (t.draft dataset first)) =
      schemas.map (t.finalDraft dataset first schemas) := by
  have clashes : (Sharing.of (laidOut (schemas.map (t.draft dataset first)))).clashes =
      t.clashes dataset first schemas := by
    rw [Sharing.of_eq_noteAll, mentions_of_drafts]
    rfl
  rw [clashes, withClashes, List.map_map]
  refine List.map_congr_left fun entry _ => ?_
  cases found : member? (t.clashes dataset first schemas) entry.1 with
  | none => simp only [Function.comp_apply, draft, finalDraft, found]
  | some e => simp only [Function.comp_apply, draft, finalDraft, found]

/-- A batch whose schemas are compiled installs its final drafts in order. -/
theorem deployAll_installs {σ : Type} {m : Option (ViewManager σ)} {dataset : String}
    {first : Option String} {schemas : List (String × Schema)} (nonempty : schemas ≠ [])
    (drafted : (t.drafts dataset first schemas).2 = .ok (schemas.map (t.draft dataset first)))
    (state : σ) :
    (t.deployAll m dataset first schemas state).EndsAs Eq
      (installDrafts m dataset state (schemas.map (t.finalDraft dataset first schemas))) := by
  rw [← withClashes_drafts]
  cases schemas with
  | nil => exact absurd rfl nonempty
  | cons entry rest =>
    unfold deployAll
    simp only [drafted]
    exact ⟨rfl, rfl⟩

section
variable {dataset : String} {first : Option String} {schemas : List (String × Schema)}

theorem finalDraft_name (entry : String × Schema) :
    (t.finalDraft dataset first schemas entry).1 = entry.1 := by
  unfold finalDraft
  split
  · rfl
  · rfl

/-- A schema whose final draft has views shares no name, and compiles to these views. -/
theorem finalDraft_ok {entry : String × Schema} {views : SchemaViews}
    (laid : (t.finalDraft dataset first schemas entry).2 = .ok views) :
    member? (t.clashes dataset first schemas) entry.1 = none ∧
      t.compile dataset first (some entry.1) entry.2 none = .ok views := by
  unfold finalDraft at laid
  split at laid
  · cases laid
  · next quiet =>
    refine ⟨quiet, ?_⟩
    unfold draft at laid
    cases compiled : t.compile dataset first (some entry.1) entry.2 none with
    | error failure => rw [compiled] at laid; cases laid
    | ok made => rw [compiled] at laid; cases laid; rfl

theorem drafts_ok {made : List Draft} (ended : (t.drafts dataset first schemas).2 = .ok made) :
    made = schemas.map (t.draft dataset first) := by
  induction schemas generalizing made with
  | nil => cases ended; rfl
  | cons entry rest ih =>
    obtain ⟨name, schema⟩ := entry
    unfold drafts at ended
    rw [List.map_cons, draft]
    cases later : (t.drafts dataset first rest).2 with
    | error failure =>
      simp only [later] at ended
      split at ended <;> cases ended
    | ok others =>
      rw [← ih later]
      simp only [later] at ended
      cases compiled : t.compile dataset first (some name) schema none with
      | ok views =>
        rw [compiled] at ended
        cases ended
        rfl
      | error failure =>
        rw [compiled] at ended
        match failure with
        | .views e => cases ended; rfl
        | .sql fault => cases ended
        | .foreign failure => cases ended

/-- A batch with results installs its final drafts in order. -/
theorem deployAll_ok {σ : Type} {m : Option (ViewManager σ)} {state : σ} {results : List SchemaResult}
    (ended : (t.deployAll m dataset first schemas state).result = .ok results) :
    (t.deployAll m dataset first schemas state).EndsAs Eq
      (installDrafts m dataset state (schemas.map (t.finalDraft dataset first schemas))) := by
  cases schemas with
  | nil => exact ⟨rfl, rfl⟩
  | cons entry rest =>
    refine deployAll_installs (List.cons_ne_nil _ _) ?_ state
    cases drafted : (t.drafts dataset first (entry :: rest)).2 with
    | ok made => rw [drafts_ok drafted]
    | error failure =>
      unfold deployAll at ended
      simp only [drafted] at ended
      cases ended

end

end Target

/-- What comes of a draft. -/
def SchemaResult.ofDraft (verdicts : Option Verdicts) (dataset : String) : Draft → SchemaResult
  | (name, .error e) => { start name with error := some e }
  | (_, .ok views) =>
    match settledViews verdicts dataset views with
    | (result, none) => result
    | (result, some e) => { result with error := some e }

theorem installDrafts_result {σ : Type} {m : Option (ViewManager σ)} {verdicts : Verdicts}
    (steady : ∀ manager ∈ m, manager.Steady verdicts) (dataset : String) (state : σ)
    (drafts : List Draft) :
    (installDrafts m dataset state drafts).result =
      .ok (drafts.map (SchemaResult.ofDraft (m.map fun _ => verdicts) dataset)) := by
  induction drafts generalizing state with
  | nil => rfl
  | cons first rest ih =>
    obtain ⟨name, draft⟩ := first
    cases draft with
    | error e =>
      simp only [installDrafts, ih, List.map_cons, SchemaResult.ofDraft]
      rfl
    | ok views =>
      have run := ViewManager.installIn_result steady dataset views state
      unfold installDrafts
      rw [List.map_cons, SchemaResult.ofDraft]
      simp only [run]
      cases settledViews (m.map fun _ => verdicts) dataset views with
      | mk result ended =>
        cases ended with
        | none => simp only [Option.map_none, ih]; rfl
        | some e => simp only [Option.map_some, ih]; rfl

namespace Target

/-- What comes of a schema of a batch. -/
def settle (t : Target) (verdicts : Option Verdicts) (dataset : String) (first : Option String)
    (schemas : List (String × Schema)) (entry : String × Schema) : SchemaResult :=
  match member? (t.clashes dataset first schemas) entry.1 with
  | some e => { SchemaResult.start entry.1 with error := some e }
  | none => .ofDraft verdicts dataset (t.draft dataset first entry)

theorem settle_eq (t : Target) (verdicts : Option Verdicts) (dataset : String) (first : Option String)
    (schemas : List (String × Schema)) (entry : String × Schema) :
    t.settle verdicts dataset first schemas entry =
      .ofDraft verdicts dataset (t.finalDraft dataset first schemas entry) := by
  unfold settle finalDraft
  cases member? (t.clashes dataset first schemas) entry.1 with
  | none => rfl
  | some e => rfl

/-- A batch has one result for each schema, and it depends on the state of no database. -/
theorem deployAll_eq {σ : Type} {t : Target} (regular : t.dialect.Regular)
    {m : Option (ViewManager σ)} {verdicts : Verdicts} (steady : ∀ manager ∈ m, manager.Steady verdicts)
    (dataset : String) (first : Option String) {schemas : List (String × Schema)}
    (nonempty : schemas ≠ []) (state : σ) :
    (t.deployAll m dataset first schemas state).result =
      .ok (schemas.map (t.settle (m.map fun _ => verdicts) dataset first schemas)) := by
  rw [(deployAll_installs nonempty (drafts_result regular dataset first schemas) state).result,
    installDrafts_result steady, List.map_map]
  refine congrArg Except.ok (List.map_congr_left fun entry _ => ?_)
  exact (settle_eq t _ dataset first schemas entry).symm

theorem settle_schema (t : Target) (verdicts : Option Verdicts) (dataset : String)
    (first : Option String) (schemas : List (String × Schema)) (entry : String × Schema) :
    (t.settle verdicts dataset first schemas entry).schema = entry.1 := by
  unfold settle
  split
  · rfl
  · unfold draft
    cases compiled : t.compile dataset first (some entry.1) entry.2 none with
    | error failure => rfl
    | ok views =>
      have own : views.schema = entry.1 := (Option.some.inj (schema_of_compile compiled)).symm
      have kept := settledViews_schema verdicts dataset views
      change (SchemaResult.ofDraft verdicts dataset (entry.1, .ok views)).schema = entry.1
      rw [SchemaResult.ofDraft]
      split
      · next ended => rw [ended] at kept; exact kept.trans own
      · next ended => rw [ended] at kept; exact kept.trans own

end Target
end ChangelogViews
