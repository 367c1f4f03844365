import ChangelogViews.Proofs.Batch.Replies

/-!
# Submissions

What a view manager is asked to create and what it replies, in order. A manager that keeps a record of
this replies as it does without (`ViewManager.recorded_repliesAs`). From the record it can be told how
far each schema came: its views are submitted in their order, and none behind the first that is refused
(`ViewManager.installEach_creation`, `installDrafts_fared`).
-/

namespace ChangelogViews

variable {σ : Type}

/-- A view that a manager was asked to create in a dataset, and its reply. -/
structure Submission where
  dataset : String
  view : String
  query : String
  reply : Except Failure Unit

namespace Submission

/-- The submission of a view. -/
def of (dataset : String) (view : View) (reply : Except Failure Unit) : Submission :=
  ⟨dataset, view.name, view.sql, reply⟩

/-- The submission of a view that is accepted. -/
def accepting (dataset : String) (view : View) : Submission := of dataset view (.ok ())

/-- The view was accepted. -/
def accepted (s : Submission) : Bool := s.reply.toBool

/-- The names of the views that were accepted, in order. -/
def acceptedNames (record : List Submission) : List String :=
  (record.filter accepted).map Submission.view

theorem acceptedNames_accepting (dataset : String) (views : List View) :
    acceptedNames (views.map (accepting dataset)) = views.map View.name := by
  induction views with
  | nil => rfl
  | cons view rest ih => exact congrArg (view.name :: ·) ih

theorem acceptedNames_append (record more : List Submission) :
    acceptedNames (record ++ more) = acceptedNames record ++ acceptedNames more := by
  unfold acceptedNames
  rw [List.filter_append, List.map_append]

end Submission

namespace ViewManager

/-- The manager, with a record of its submissions beside its state. -/
def recorded (m : ViewManager σ) : ViewManager (σ × List Submission) where
  create state dataset view query :=
    let reply := m.create state.1 dataset view query
    ⟨(reply.state, state.2 ++ [⟨dataset, view, query, reply.result⟩]), reply.logs, reply.result⟩

/-- The manager reports a view that it does not create by an error of the family. -/
def Reports (m : ViewManager σ) : Prop :=
  ∀ state dataset view query failure, (m.create state dataset view query).result = .error failure →
    ∃ e, failure = .views e

theorem recorded_repliesAs (m : ViewManager σ) (dataset : String) :
    m.recorded.RepliesAs dataset (fun state plain => state.1 = plain) m := by
  rintro ⟨state, record⟩ plain rfl view query
  exact ⟨rfl, rfl⟩

theorem recorded_bothReplyAs (m : Option (ViewManager σ)) (dataset : String) :
    BothReplyAs dataset (fun state plain => state.1 = plain) (m.map recorded) m := by
  cases m with
  | none => exact .none
  | some manager => exact .some (manager.recorded_repliesAs dataset)

end ViewManager

/-- The result once some more views were created. -/
def SchemaResult.behind (result : SchemaResult) (stages : List (View × Stage)) : SchemaResult :=
  stages.foldl (fun r s => r.advance s.1.name s.2) result

theorem SchemaResult.behind_created (result : SchemaResult) (stages : List (View × Stage)) :
    (result.behind stages).created = result.created ++ stages.map (·.1.name) := by
  induction stages generalizing result with
  | nil => exact (List.append_nil _).symm
  | cons first rest ih =>
    unfold behind at ih ⊢
    rw [List.foldl_cons, ih]
    exact List.append_assoc result.created [first.1.name] _

theorem SchemaResult.behind_schema (result : SchemaResult) (stages : List (View × Stage)) :
    (result.behind stages).schema = result.schema := by
  induction stages generalizing result with
  | nil => rfl
  | cons first rest ih => exact ih (result.advance first.1.name first.2)

/-- The error of a view that was refused, with the names of schema and view. -/
def ViewError.named (e : ViewError) (schema view : String) : ViewError :=
  e.addContext ⟨some schema, some view, none⟩

/-- How the creation of some views ends: all are accepted, or one is refused behind others that are. -/
inductive Creation (dataset : String) (result : SchemaResult) (stages : List (View × Stage)) :
    List Submission → Installed → Prop
  | through : Creation dataset result stages (stages.map fun s => .accepting dataset s.1)
      (result.behind stages, none)
  | refused (before : List (View × Stage)) {after : List (View × Stage)} {view : View}
      {stage : Stage} {e : ViewError} (split : stages = before ++ (view, stage) :: after) :
      Creation dataset result stages
        ((before.map fun s => .accepting dataset s.1) ++ [.of dataset view (.error (.views e))])
        (result.behind before, some (.views (e.named result.schema view.name)))

/-- One more view is accepted in front. -/
theorem Creation.cons {dataset : String} {result : SchemaResult} {view : View} {stage : Stage}
    {rest : List (View × Stage)} {asked : List Submission} {installed : Installed}
    (later : Creation dataset (result.advance view.name stage) rest asked installed) :
    Creation dataset result ((view, stage) :: rest) (.accepting dataset view :: asked) installed := by
  cases later with
  | through => exact .through
  | refused before split =>
    exact .refused ((view, stage) :: before) (congrArg ((view, stage) :: ·) split)

namespace ViewManager

/-- The views of a list are submitted in order, none behind the first that is refused. -/
theorem installEach_creation {m : ViewManager σ} (reports : m.Reports) (dataset : String)
    (result : SchemaResult) (state : σ) (record : List Submission) (stages : List (View × Stage)) :
    ∃ asked, (m.recorded.installEach dataset result (state, record) stages).state.2 =
        record ++ asked ∧
      Creation dataset result stages asked
        (m.recorded.installEach dataset result (state, record) stages).result := by
  induction stages generalizing result state record with
  | nil => exact ⟨[], (List.append_nil record).symm, .through⟩
  | cons first rest ih =>
    obtain ⟨view, stage⟩ := first
    simp only [installEach, submit, recorded]
    cases replied : (m.create state dataset view.name view.sql).result with
    | error failure =>
      obtain ⟨e, rfl⟩ := reports state dataset view.name view.sql failure replied
      exact ⟨_, rfl, .refused [] rfl⟩
    | ok done =>
      obtain ⟨asked, kept, ended⟩ := ih (result.advance view.name stage)
        (m.create state dataset view.name view.sql).state
        (record ++ [⟨dataset, view.name, view.sql, .ok done⟩])
      refine ⟨.accepting dataset view :: asked, ?_, ended.cons⟩
      rw [List.append_assoc] at kept
      exact kept

end ViewManager

theorem SchemaViews.views_of_stages (views : SchemaViews) : views.stages.map Prod.fst = views.all := by
  unfold stages all
  rw [List.map_cons, List.map_cons, List.map_map]
  exact congrArg (views.snapshot :: views.top :: ·) (List.map_id _)

/-- How a schema fares that was compiled as `views`, or was not: nothing is submitted and it has an error, all
views are accepted, or one is refused behind others that are accepted. -/
inductive Fared (dataset schema : String) :
    (views : Option SchemaViews) → SchemaResult → List Submission → Prop
  | idle {views : Option SchemaViews} {e : ViewError} :
      Fared dataset schema views { SchemaResult.start schema with error := some e } []
  | through {views : SchemaViews} :
      Fared dataset schema (some views) ((SchemaResult.start schema).behind views.stages).finish
        (views.stages.map fun s => .accepting dataset s.1)
  | refused {views : SchemaViews} {before after : List (View × Stage)} {view : View} {stage : Stage}
      {e : ViewError} (split : views.stages = before ++ (view, stage) :: after) :
      Fared dataset schema (some views)
        { (SchemaResult.start schema).behind before with error := some (e.named schema view.name) }
        ((before.map fun s => .accepting dataset s.1) ++ [.of dataset view (.error (.views e))])

/-- A schema that is not compiled in a batch fares as it does whatever it compiles to. -/
theorem Fared.of_none {dataset schema : String} {r : SchemaResult} {asked : List Submission}
    (fared : Fared dataset schema none r asked) (views : Option SchemaViews) :
    Fared dataset schema views r asked := by
  cases fared with
  | idle => exact .idle

theorem Fared.schema_eq {dataset schema : String} {views : Option SchemaViews} {r : SchemaResult}
    {asked : List Submission} (fared : Fared dataset schema views r asked) : r.schema = schema := by
  cases fared with
  | idle => rfl
  | through => exact SchemaResult.behind_schema _ _
  | refused split => exact SchemaResult.behind_schema _ _

/-- The result of a schema when its installation ends, with the error that ended it. -/
inductive Installed.Leaves : Installed → SchemaResult → Prop
  | whole {r : SchemaResult} (flawless : r.error = none) : Leaves (r, none) r
  | broken {r : SchemaResult} {e : ViewError} :
      Leaves (r, some (.views e)) { r with error := some e }

theorem SchemaResult.behind_error (result : SchemaResult) (stages : List (View × Stage)) :
    (result.behind stages).error = result.error := by
  induction stages generalizing result with
  | nil => rfl
  | cons first rest ih => exact ih (result.advance first.1.name first.2)

theorem ViewManager.installIn_fared {m : Option (ViewManager σ)}
    (reports : ∀ manager ∈ m, manager.Reports) (dataset : String) (views : SchemaViews) (state : σ)
    (record : List Submission) :
    ∃ r asked,
      (installIn (m.map recorded) dataset views (state, record)).state.2 = record ++ asked ∧
      Fared dataset views.schema (some views) r asked ∧
      (installIn (m.map recorded) dataset views (state, record)).result.Leaves r := by
  cases m with
  | none => exact ⟨_, [], (List.append_nil record).symm, .idle, .broken⟩
  | some m =>
    obtain ⟨asked, kept, ended⟩ :=
      installEach_creation (reports m rfl) dataset (.start views.schema) state record views.stages
    simp only [Option.map_some, installIn, install]
    generalize m.recorded.installEach dataset (.start views.schema) (state, record) views.stages = run
      at kept ended
    obtain ⟨state', logs, installed⟩ := run
    cases ended with
    | through => exact ⟨_, _, kept, .through, .whole (SchemaResult.behind_error _ _)⟩
    | refused before split => exact ⟨_, _, kept, .refused split, .broken⟩

/-- Each draft of a batch fares on its own, and the record of the batch is what was submitted for the
drafts in order. -/
theorem installDrafts_fared {α : Type} {m : Option (ViewManager σ)}
    (reports : ∀ manager ∈ m, manager.Reports) (dataset : String) (draft : α → Draft) {entries : List α}
    (named : ∀ entry ∈ entries, ∀ views, (draft entry).2 = .ok views → views.schema = (draft entry).1)
    (state : σ) (record : List Submission) :
    ∃ parts : List (α × SchemaResult × List Submission),
      parts.map Prod.fst = entries ∧
      (installDrafts (m.map ViewManager.recorded) dataset (state, record) (entries.map draft)).result =
        .ok (parts.map (·.2.1)) ∧
      (installDrafts (m.map ViewManager.recorded) dataset (state, record) (entries.map draft)).state.2 =
        record ++ parts.flatMap (·.2.2) ∧
      ∀ p ∈ parts, Fared dataset (draft p.1).1 (draft p.1).2.toOption p.2.1 p.2.2 := by
  induction entries generalizing state record with
  | nil => exact ⟨[], rfl, rfl, (List.append_nil record).symm, fun p none => absurd none List.not_mem_nil⟩
  | cons entry rest ih =>
    have own := named entry List.mem_cons_self
    have later := ih fun x inside => named x (List.mem_cons_of_mem _ inside)
    rw [List.map_cons]
    cases same : draft entry with
    | mk name drafted =>
    rw [same] at own
    cases drafted with
    | error e =>
      obtain ⟨parts, listed, results, kept, fared⟩ := later state record
      refine ⟨(entry, { SchemaResult.start name with error := some e }, []) :: parts, ?_, ?_, kept, ?_⟩
      · rw [List.map_cons, listed]
      · simp only [installDrafts, results]
        rfl
      · intro p inside
        rcases List.mem_cons.mp inside with rfl | inside
        · rw [same]
          exact .idle
        · exact fared p inside
    | ok views =>
      obtain rfl := own views rfl
      obtain ⟨r, asked, kept, fared, leaves⟩ :=
        ViewManager.installIn_fared reports dataset views state record
      unfold installDrafts
      generalize ViewManager.installIn (m.map ViewManager.recorded) dataset views (state, record) = run
        at kept leaves
      obtain ⟨⟨state', record'⟩, logs, installed⟩ := run
      obtain rfl : record' = record ++ asked := kept
      obtain ⟨parts, listed, results, kept', others⟩ := later state' (record ++ asked)
      have all : ∀ p ∈ (entry, r, asked) :: parts,
          Fared dataset (draft p.1).1 (draft p.1).2.toOption p.2.1 p.2.2 := by
        intro p inside
        rcases List.mem_cons.mp inside with rfl | inside
        · rw [same]
          exact fared
        · exact others p inside
      refine ⟨(entry, r, asked) :: parts, by rw [List.map_cons, listed], ?_, ?_, all⟩
      · cases leaves with
        | whole flawless => simp only [results]; rfl
        | broken => simp only [results]; rfl
      · rw [List.flatMap_cons, ← List.append_assoc, ← kept']
        cases leaves with
        | whole flawless => rfl
        | broken => rfl

end ChangelogViews
