import ChangelogViews.Proofs.Batch.Submissions

/-!
# Progress

The result of a schema tells how far the installation of its views came: which views the manager
accepted, the stage that this is, and the error of the first view that it refused (`Fared.progress`).
-/

namespace ChangelogViews

/-- The views of a schema in the order of their creation, none if it was not compiled. -/
def SchemaViews.defined (views : Option SchemaViews) : List View := views.elim [] all

/-- What the result of a schema tells of its views and of what was submitted for it. -/
structure SchemaResult.Progress (r : SchemaResult) (views : Option SchemaViews)
    (asked : List Submission) : Prop where
  /-- The views are submitted in their order. -/
  submitted : asked.map Submission.view <+: (SchemaViews.defined views).map View.name
  /-- The views that were created are the first of the schema. -/
  inOrder : r.created <+: (SchemaViews.defined views).map View.name
  /-- They are those that the manager accepted. -/
  accepted : r.created = Submission.acceptedNames asked
  notStarted : r.stage = .notStarted ↔ r.created = []
  latestCreated : r.stage = .latestViewCreated ↔ ∃ v ∈ views, r.created = [v.snapshot.name]
  topCreated : r.stage = .topViewCreated ↔ ∃ v ∈ views,
    [v.snapshot.name, v.top.name] <+: r.created ∧ r.created ≠ v.all.map View.name
  done : r.stage = .done ↔ ∃ v ∈ views, r.created = v.all.map View.name
  childrenCreated : r.stage ≠ .childViewsCreated
  error : r.error = none ↔ r.stage = .done
  /-- Nothing is submitted behind a view that was refused. -/
  stops : ∀ before s after, asked = before ++ s :: after → s.accepted = false → after = []
  /-- The error of a view that was refused is that of the schema, and tells its name and that of the
  first view that was not created unless it tells others. -/
  told : ∀ s ∈ asked, ∀ e, s.reply = .error (.views e) → ∃ told view,
    r.error = some told ∧ told.cause = e.cause ∧
      ((SchemaViews.defined views).map View.name)[r.created.length]? = some view ∧
      (Context.isNamed e.context.schema = false → told.context.schema = some r.schema) ∧
      (Context.isNamed e.context.view = false → told.context.view = some view)

section
variable {schema : String} {views : SchemaViews} {before after : List (View × Stage)}

private theorem behind_start_created (schema : String) (before : List (View × Stage)) :
    ((SchemaResult.start schema).behind before).created = before.map (·.1.name) :=
  SchemaResult.behind_created _ _

/-- Children do not change the stage. -/
private theorem stage_behind_children {children : List (View × Stage)}
    (tops : ∀ s ∈ children, s.2 = .topViewCreated) {r : SchemaResult}
    (top : r.stage = .topViewCreated) : (r.behind children).stage = .topViewCreated := by
  induction children generalizing r with
  | nil => exact top
  | cons s rest ih =>
    exact ih (fun s inside => tops s (List.mem_cons_of_mem _ inside)) (tops s List.mem_cons_self)

/-- What a result that is not complete tells of its stage. -/
private structure Unfinished (views : SchemaViews) (r : SchemaResult) : Prop where
  notStarted : r.stage = .notStarted ↔ r.created = []
  latestCreated : r.stage = .latestViewCreated ↔ r.created = [views.snapshot.name]
  topCreated : r.stage = .topViewCreated ↔ [views.snapshot.name, views.top.name] <+: r.created
  childrenCreated : r.stage ≠ .childViewsCreated
  done : r.stage ≠ .done

/-- The stage that is reached with the first views of a schema. -/
private theorem unfinished_behind (split : views.stages = before ++ after) :
    Unfinished views ((SchemaResult.start schema).behind before) := by
  have created := behind_start_created schema before
  match before with
  | [] =>
    have stage : ((SchemaResult.start schema).behind []).stage = .notStarted := rfl
    constructor <;> simp [stage, created]
  | [first] =>
    obtain ⟨rfl, _⟩ := List.cons.inj split
    have stage : ((SchemaResult.start schema).behind [(views.snapshot, .latestViewCreated)]).stage =
      .latestViewCreated := rfl
    constructor <;> simp [stage, created]
  | first :: second :: more =>
    obtain ⟨rfl, later⟩ := List.cons.inj split
    obtain ⟨rfl, children⟩ := List.cons.inj later
    have tops : ∀ s ∈ more, s.2 = .topViewCreated := by
      intro s inside
      have among : s ∈ views.children.map (·, Stage.topViewCreated) := by
        rw [children]
        exact List.mem_append_left _ inside
      obtain ⟨child, _, rfl⟩ := List.mem_map.mp among
      rfl
    have stage : ((SchemaResult.start schema).behind ((views.snapshot, .latestViewCreated) ::
        (views.top, .topViewCreated) :: more)).stage = .topViewCreated :=
      stage_behind_children tops rfl
    constructor <;> simp [stage, created]

/-- The names of the views of a schema, some of which were created. -/
private theorem names_of_split {view : View} {stage : Stage}
    (split : views.stages = before ++ (view, stage) :: after) :
    views.all.map View.name =
      before.map (·.1.name) ++ view.name :: after.map (·.1.name) := by
  rw [← views.views_of_stages, split, List.map_map, List.map_append, List.map_cons]
  rfl

end

section
variable {dataset schema : String} {views : SchemaViews}

private theorem reply_of_accepting {views : List View} {s : Submission}
    (inside : s ∈ views.map (Submission.accepting dataset)) : s.reply = .ok () := by
  obtain ⟨view, _, rfl⟩ := List.mem_map.mp inside
  rfl

/-- An element of a list is the last one or stands before it. -/
theorem split_concat {α : Type} {xs before after : List α} {x s : α}
    (same : xs ++ [x] = before ++ s :: after) :
    before = xs ∧ s = x ∧ after = [] ∨ ∃ rest, xs = before ++ s :: rest := by
  rcases List.eq_nil_or_concat after with rfl | ⟨rest, last, rfl⟩
  · obtain ⟨rfl, last⟩ := List.append_inj' same rfl
    exact .inl ⟨rfl, (List.cons.inj last).1.symm, rfl⟩
  · rw [List.concat_eq_append, ← List.cons_append, ← List.append_assoc] at same
    exact .inr ⟨rest, (List.append_inj' same rfl).1⟩

/-- A schema of which nothing was submitted is not started. -/
private theorem progress_idle (views : Option SchemaViews) (e : ViewError) :
    SchemaResult.Progress { SchemaResult.start schema with error := some e } views [] where
  submitted := List.nil_prefix
  inOrder := List.nil_prefix
  accepted := rfl
  notStarted := by simp [SchemaResult.start]
  latestCreated := by simp [SchemaResult.start]
  topCreated := by simp [SchemaResult.start]
  done := by simp [SchemaResult.start, SchemaViews.all]
  childrenCreated := by simp [SchemaResult.start]
  error := by simp [SchemaResult.start]
  stops := by simp
  told := by simp

/-- A schema of which all views were accepted is done. -/
private theorem progress_through :
    ((SchemaResult.start schema).behind views.stages).finish.Progress (some views)
      (views.stages.map fun s => .accepting dataset s.1) := by
  have created : ((SchemaResult.start schema).behind views.stages).finish.created =
      views.all.map View.name := by
    rw [← views.views_of_stages, List.map_map]
    exact behind_start_created schema views.stages
  have stage : ((SchemaResult.start schema).behind views.stages).finish.stage = .done := rfl
  have asked : (views.stages.map fun s => Submission.accepting dataset s.1) =
      views.all.map (.accepting dataset) := by
    rw [← views.views_of_stages, List.map_map]
    rfl
  rw [asked]
  exact {
    submitted := by
      rw [List.map_map]
      exact List.prefix_rfl
    inOrder := created ▸ List.prefix_rfl
    accepted := created.trans (Submission.acceptedNames_accepting dataset views.all).symm
    notStarted := by simp [stage, created, SchemaViews.all]
    latestCreated := by simp [stage, created, SchemaViews.all]
    topCreated := by simp [stage, created]
    done := by simp [stage, created]
    childrenCreated := by simp [stage]
    error := ⟨fun _ => rfl, fun _ => SchemaResult.behind_error _ _⟩
    stops := by
      intro before s after split refused
      have reply := reply_of_accepting (split ▸ List.mem_append_right before List.mem_cons_self)
      simp [Submission.accepted, reply, Except.toBool] at refused
    told := by
      intro s inside e replied
      rw [reply_of_accepting inside] at replied
      cases replied }

/-- A schema of which a view was refused has the views before it. -/
private theorem progress_refused {before after : List (View × Stage)} {view : View} {stage : Stage}
    (split : views.stages = before ++ (view, stage) :: after) (e : ViewError) :
    SchemaResult.Progress
      { (SchemaResult.start schema).behind before with error := some (e.named schema view.name) }
      (some views)
      ((before.map fun s => .accepting dataset s.1) ++ [.of dataset view (.error (.views e))]) := by
  have created := behind_start_created schema before
  have unfinished : Unfinished views ((SchemaResult.start schema).behind before) :=
    unfinished_behind split
  have names := names_of_split split
  have partly : before.map (·.1.name) ≠ views.all.map View.name := by
    intro same
    have lengths := congrArg List.length (same.trans names)
    simp at lengths
  have asked : (before.map fun s => Submission.accepting dataset s.1) =
      (before.map Prod.fst).map (.accepting dataset) := by
    rw [List.map_map]
    rfl
  rw [asked]
  exact {
    submitted := by
      change _ <+: views.all.map View.name
      rw [List.map_append, List.map_map, List.map_map, names]
      exact ⟨after.map (·.1.name), List.append_assoc _ [view.name] _⟩
    inOrder := by
      change ((SchemaResult.start schema).behind before).created <+: views.all.map View.name
      rw [created, names]
      exact List.prefix_append _ _
    accepted := by
      rw [Submission.acceptedNames_append, Submission.acceptedNames_accepting, List.map_map]
      exact created.trans (List.append_nil _).symm
    notStarted := unfinished.notStarted
    latestCreated := by simpa using unfinished.latestCreated
    topCreated := by
      have incomplete : ((SchemaResult.start schema).behind before).created ≠
          views.all.map View.name := created ▸ partly
      simpa [incomplete] using unfinished.topCreated
    done := by
      simpa [created, unfinished.done] using partly
    childrenCreated := unfinished.childrenCreated
    error := by
      simpa using unfinished.done
    stops := by
      intro before' s after' same refused
      rcases split_concat same with ⟨_, _, last⟩ | ⟨rest, earlier⟩
      · exact last
      · have reply := reply_of_accepting (earlier ▸ List.mem_append_right before' List.mem_cons_self)
        simp [Submission.accepted, reply, Except.toBool] at refused
    told := by
      intro s inside e' replied
      rcases List.mem_append.mp inside with inside | inside
      · rw [reply_of_accepting inside] at replied
        cases replied
      · obtain rfl := List.mem_singleton.mp inside
        cases replied
        refine ⟨_, view.name, rfl, rfl, ?_, ?_, ?_⟩
        · change (views.all.map View.name)[((SchemaResult.start schema).behind before).created.length]? = _
          rw [created, names, List.getElem?_append_right (Nat.le_refl _), Nat.sub_self]
          rfl
        · intro unnamed
          have own : (e.named schema view.name).context.schema = some schema := by
            change Context.fill e.context.schema (some schema) = some schema
            simp [Context.fill, unnamed]
          rw [own]
          exact congrArg some (SchemaResult.behind_schema (.start schema) before).symm
        · intro unnamed
          change Context.fill e.context.view (some view.name) = some view.name
          simp [Context.fill, unnamed] }

end

/-- However a schema fares, its result tells how far it came. -/
theorem Fared.progress {dataset schema : String} {views : Option SchemaViews} {r : SchemaResult}
    {asked : List Submission} (fared : Fared dataset schema views r asked) : r.Progress views asked := by
  cases fared with
  | idle => exact progress_idle views _
  | through => exact progress_through
  | refused split => exact progress_refused split _

end ChangelogViews
