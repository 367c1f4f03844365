import ChangelogViews.Proofs.Batch.Isolation
import ChangelogViews.Proofs.Batch.Progress
import ChangelogViews.Proofs.Views.Correspondence
import Mathlib.Data.List.Nodup

/-!
# The record of a batch

What is submitted for the schemas of a batch, one after the other, and what their results tell of it.
Each result is that of its own submissions, no view is submitted twice, and none before the views that
it reads were accepted (`Target.installation_progresses`).
-/

namespace ChangelogViews

section
variable {α β : Type} {parts : List α} {f : α → List β}

/-- What stands in the record stands in one part, behind no more than it does in the record. -/
private theorem split_flatMap {before after : List β} {s : β}
    (split : parts.flatMap f = before ++ s :: after) :
    ∃ p ∈ parts, ∃ own behind, f p = own ++ s :: behind ∧ ∃ earlier, before = earlier ++ own := by
  induction parts generalizing before with
  | nil =>
    have empty := congrArg List.length split
    simp at empty
  | cons p rest ih =>
    rw [List.flatMap_cons] at split
    rcases List.append_eq_append_iff.mp split with ⟨mid, rfl, later⟩ | ⟨mid, first, later⟩
    · obtain ⟨q, inside, own, behind, at_q, earlier, rfl⟩ := ih later
      exact ⟨q, List.mem_cons_of_mem _ inside, own, behind, at_q, f p ++ earlier,
        (List.append_assoc _ _ _).symm⟩
    · cases mid with
      | nil =>
        obtain ⟨q, inside, own, behind, at_q, earlier, nothing⟩ := @ih [] later.symm
        obtain ⟨rfl, rfl⟩ := List.append_eq_nil_iff.mp nothing.symm
        exact ⟨q, List.mem_cons_of_mem _ inside, [], behind, at_q, before, (List.append_nil _).symm⟩
      | cons x mid =>
        obtain ⟨rfl, rest⟩ := List.cons.inj later
        exact ⟨p, List.mem_cons_self, before, mid, first, [], rfl⟩

/-- One part of a record, where what is kept of the record belongs to this part. -/
private theorem filter_flatMap_eq {keep : β → Bool} (distinct : parts.Nodup) {p : α} (inside : p ∈ parts)
    (own : ∀ s ∈ f p, keep s = true) (others : ∀ q ∈ parts, q ≠ p → ∀ s ∈ f q, keep s = false) :
    (parts.flatMap f).filter keep = f p := by
  have nothing : ∀ rest : List α, (∀ q ∈ rest, q ∈ parts ∧ q ≠ p) →
      rest.flatMap (fun q => (f q).filter keep) = [] := by
    intro rest apart
    refine List.flatMap_eq_nil_iff.mpr fun q listed => List.filter_eq_nil_iff.mpr fun s among => ?_
    obtain ⟨here, differs⟩ := apart q listed
    simp [others q here differs s among]
  obtain ⟨before, after, rfl⟩ := List.append_of_mem inside
  have apart := List.nodup_middle.mp distinct
  have differs : ∀ q ∈ before ++ after, q ≠ p := by
    rintro q listed rfl
    exact (List.nodup_cons.mp apart).1 listed
  rw [List.filter_flatMap, List.flatMap_append, List.flatMap_cons]
  rw [nothing before, nothing after, List.filter_eq_self.mpr own, List.nil_append, List.append_nil]
  · exact fun q listed => ⟨List.mem_append_right _ (List.mem_cons_of_mem _ listed),
      differs q (List.mem_append_right _ listed)⟩
  · exact fun q listed => ⟨List.mem_append_left _ listed, differs q (List.mem_append_left _ listed)⟩

end

/-- A submission for a schema is that of one of its views, behind the views before it, which were
accepted. -/
theorem Fared.position {dataset schema : String} {views : Option SchemaViews} {r : SchemaResult}
    {asked before after : List Submission} {s : Submission}
    (fared : Fared dataset schema views r asked) (split : asked = before ++ s :: after) :
    ∃ laid, views = some laid ∧ ∃ earlier view later, laid.all = earlier ++ view :: later ∧
      before = earlier.map (.accepting dataset) ∧ s = .of dataset view s.reply := by
  have within : ∀ {laid : SchemaViews} {stages rest : List (View × Stage)} {more : List Submission},
      laid.stages = stages ++ rest →
      (stages.map fun s => Submission.accepting dataset s.1) = before ++ s :: more →
      ∃ earlier view later, laid.all = earlier ++ view :: later ∧
        before = earlier.map (.accepting dataset) ∧ s = .of dataset view s.reply := by
    intro laid stages rest more whole submitted
    obtain ⟨first, others, rfl, rfl, behind⟩ := List.map_eq_append_iff.mp submitted
    obtain ⟨⟨view, stage⟩, later, rfl, rfl, _⟩ := List.map_eq_cons_iff.mp behind
    refine ⟨first.map Prod.fst, view, (later ++ rest).map Prod.fst, ?_, ?_, rfl⟩
    · rw [← laid.views_of_stages, whole]
      simp
    · rw [List.map_map]
      rfl
  cases fared with
  | idle => cases before <;> cases split
  | through => exact ⟨_, rfl, within (List.append_nil _).symm split⟩
  | @refused laid first after' view stage e whole =>
    refine ⟨_, rfl, ?_⟩
    rcases split_concat split with ⟨rfl, rfl, _⟩ | ⟨more, submitted⟩
    · refine ⟨first.map Prod.fst, view, after'.map Prod.fst, ?_, ?_, rfl⟩
      · rw [← laid.views_of_stages, whole]
        simp
      · rw [List.map_map]
        rfl
    · exact within whole submitted

/-- Every submission is of a view that was compiled, and the views that it reads were accepted before. -/
def ReadsFirst (dataset : String) (laid : List SchemaViews) (record : List Submission) : Prop :=
  ∀ before s after, record = before ++ s :: after →
    ∃ views ∈ laid, ∃ view ∈ views.all, s = .of dataset view s.reply ∧
      ∀ name ∈ view.dependsOn, name ∈ Submission.acceptedNames before

section
variable {t : Target} {dataset name : String} {first schemaName changelog : Option String}
  {schema : Schema} {views : SchemaViews} {r : SchemaResult} {asked : List Submission}

theorem Fared.readsFirst (fared : Fared dataset name (some views) r asked)
    (done : t.compile dataset first schemaName schema changelog = .ok views) :
    ReadsFirst dataset [views] asked := by
  intro before s after split
  obtain ⟨_, some, earlier, view, later, whole, rfl, own⟩ := fared.position split
  cases some
  refine ⟨views, List.mem_singleton.mpr rfl, view, ?_, own, ?_⟩
  · rw [whole]
    exact List.mem_append_right _ List.mem_cons_self
  · rw [Submission.acceptedNames_accepting]
    exact Target.reads_before done whole

theorem Fared.nodup (fared : Fared dataset name (some views) r asked)
    (done : t.compile dataset first schemaName schema changelog = .ok views) :
    (asked.map Submission.view).Nodup :=
  List.Nodup.sublist fared.progress.submitted.sublist (Target.nodup_of_compile done)

end

namespace Target

variable {σ : Type} {t : Target} {dataset : String} {first : Option String}
  {schemas : List (String × Schema)}

/-- What a schema of a batch compiles to. -/
def compiled (t : Target) (dataset : String) (first : Option String) (entry : String × Schema) :
    Option SchemaViews :=
  (t.compile dataset first (some entry.1) entry.2 none).toOption

/-- What is known of the results of a batch and of the record of its submissions. -/
structure Progressed (t : Target) (dataset : String) (first : Option String)
    (schemas : List (String × Schema)) (results : List SchemaResult) (record : List Submission) :
    Prop where
  /-- There is one result for each schema, in order. -/
  inOrder : results.map SchemaResult.schema = schemas.map Prod.fst
  /-- The result of a schema tells of the submissions of its views. -/
  each : ∀ entry ∈ schemas, ∀ r ∈ results, r.schema = entry.1 →
    r.Progress (t.compiled dataset first entry)
      (record.filter fun s => s.view ∈ t.viewNames dataset first entry)
  /-- No view is submitted twice. -/
  once : (record.map Submission.view).Nodup
  readsFirst : ReadsFirst dataset (schemas.filterMap (t.compiled dataset first)) record

/-- What is known of a single schema: nothing is submitted if it does not compile, and its result is
reported if all views are created, or else the error of the result is. -/
structure DeployedAlone (t : Target) (dataset : String) (first schemaName : Option String)
    (schema : Schema) (changelog : Option String) (outcome : Except Failure SchemaResult)
    (record : List Submission) : Prop where
  uncompiled : ∀ failure, t.compile dataset first schemaName schema changelog = .error failure →
    outcome = .error failure ∧ record = []
  compiled : ∀ views, t.compile dataset first schemaName schema changelog = .ok views →
    ∃ r : SchemaResult, r.schema = views.schema ∧ r.Progress (some views) record ∧
      (record.map Submission.view).Nodup ∧ ReadsFirst dataset [views] record ∧
      outcome = match r.error with
        | none => .ok r
        | some e => .error (.views e)

theorem deploy_alone (t : Target) {m : Option (ViewManager σ)}
    (reports : ∀ manager ∈ m, manager.Reports) (dataset : String)
    (first schemaName : Option String) (schema : Schema) (changelog : Option String) (state : σ) :
    t.DeployedAlone dataset first schemaName schema changelog
      (t.deploy (m.map ViewManager.recorded) dataset first schemaName schema changelog (state, [])).result
      (t.deploy (m.map ViewManager.recorded) dataset first schemaName schema changelog
        (state, [])).state.2 := by
  unfold deploy
  constructor
  · intro failure failed
    simp only [failed, and_self]
  · intro views done
    obtain ⟨r, asked, kept, fared, leaves⟩ :=
      ViewManager.installIn_fared reports dataset views state []
    rw [List.nil_append] at kept
    simp only [done]
    generalize ViewManager.installIn (m.map ViewManager.recorded) dataset views (state, []) = run
      at kept leaves
    obtain ⟨⟨state', record⟩, logs, installed⟩ := run
    obtain rfl : record = asked := kept
    have once := fared.nodup done
    have reads := fared.readsFirst done
    cases leaves with
    | whole flawless =>
      refine ⟨r, fared.schema_eq, fared.progress, once, reads, ?_⟩
      rw [flawless]
    | broken => exact ⟨_, fared.schema_eq, fared.progress, once, reads, rfl⟩

/-! ### The parts of a record -/

theorem compile_of_compiled {entry : String × Schema} {views : SchemaViews}
    (compiles : t.compiled dataset first entry = some views) :
    t.compile dataset first (some entry.1) entry.2 none = .ok views := by
  unfold compiled at compiles
  cases done : t.compile dataset first (some entry.1) entry.2 none with
  | error failure => rw [done] at compiles; cases compiles
  | ok made => rw [done] at compiles; cases compiles; rfl

theorem compiled_of_compile {entry : String × Schema} {views : SchemaViews}
    (done : t.compile dataset first (some entry.1) entry.2 none = .ok views) :
    t.compiled dataset first entry = some views := by
  unfold compiled
  rw [done]
  rfl

/-- How a schema of a batch fares. -/
abbrev FaredIn (t : Target) (dataset : String) (first : Option String)
    (schemas : List (String × Schema)) (entry : String × Schema) : SchemaResult → List Submission → Prop :=
  Fared dataset (t.finalDraft dataset first schemas entry).1
    (t.finalDraft dataset first schemas entry).2.toOption

section
variable {entry : String × Schema} {r : SchemaResult} {asked : List Submission}

theorem FaredIn.compiles (fared : t.FaredIn dataset first schemas entry r asked) :
    Fared dataset entry.1 (t.compiled dataset first entry) r asked := by
  unfold FaredIn at fared
  rw [finalDraft_name] at fared
  cases laid : (t.finalDraft dataset first schemas entry).2 with
  | error e =>
    rw [laid] at fared
    exact fared.of_none _
  | ok views =>
    rw [laid] at fared
    rw [compiled_of_compile (finalDraft_ok laid).2]
    exact fared

/-- What is submitted for a schema has the name of one of its views, and the schema shares no name. -/
theorem FaredIn.submission (fared : t.FaredIn dataset first schemas entry r asked) {s : Submission}
    (inside : s ∈ asked) : s.view ∈ t.viewNames dataset first entry ∧
      member? (t.clashes dataset first schemas) entry.1 = none := by
  obtain ⟨before, after, split⟩ := List.append_of_mem inside
  obtain ⟨laid, some, earlier, view, later, whole, _, own⟩ := Fared.position fared split
  cases drafted : (t.finalDraft dataset first schemas entry).2 with
  | error e => rw [drafted] at some; cases some
  | ok views =>
    rw [drafted] at some
    cases some
    obtain ⟨quiet, done⟩ := finalDraft_ok drafted
    refine ⟨?_, quiet⟩
    rw [viewNames_of_compile done, whole, own]
    exact List.mem_map.mpr ⟨view, List.mem_append_right _ List.mem_cons_self, rfl⟩

/-- What is submitted for a schema has no name of another schema. -/
theorem FaredIn.apart (fared : t.FaredIn dataset first schemas entry r asked)
    (inside : entry ∈ schemas) {other : String × Schema} (among : other ∈ schemas)
    (differs : other.1 ≠ entry.1) {s : Submission} (submitted : s ∈ asked) :
    s.view ∉ t.viewNames dataset first other := by
  intro shared
  obtain ⟨own, quiet⟩ := fared.submission submitted
  exact clash_of_shares inside ⟨own, other, among, differs, shared⟩ quiet

/-- No view of a schema is submitted twice. -/
theorem FaredIn.nodup (fared : t.FaredIn dataset first schemas entry r asked) :
    (asked.map Submission.view).Nodup := by
  have course := fared.compiles
  cases compiles : t.compiled dataset first entry with
  | none =>
    rw [compiles] at course
    cases course with
    | idle => exact List.nodup_nil
  | some views =>
    rw [compiles] at course
    exact course.nodup (compile_of_compiled compiles)

end

/-- A record in parts: one for each schema of a batch in order, with its result and how it fared. -/
structure Parted (t : Target) (dataset : String) (first : Option String)
    (schemas : List (String × Schema))
    (parts : List ((String × Schema) × SchemaResult × List Submission)) : Prop where
  listed : parts.map Prod.fst = schemas
  fared : ∀ p ∈ parts, t.FaredIn dataset first schemas p.1 p.2.1 p.2.2

namespace Parted

variable {parts : List ((String × Schema) × SchemaResult × List Submission)}
  {p q : (String × Schema) × SchemaResult × List Submission}

theorem inside (parted : t.Parted dataset first schemas parts) (here : p ∈ parts) : p.1 ∈ schemas :=
  parted.listed ▸ List.mem_map.mpr ⟨p, here, rfl⟩

theorem schema_eq (parted : t.Parted dataset first schemas parts) (here : p ∈ parts) :
    p.2.1.schema = p.1.1 := (parted.fared p here).compiles.schema_eq

theorem nodup_names (parted : t.Parted dataset first schemas parts)
    (mapping : (schemas.map Prod.fst).Nodup) : (parts.map (·.1.1)).Nodup := by
  rw [← parted.listed, List.map_map] at mapping
  exact mapping

/-- Two parts have no view name in common. -/
theorem apart (parted : t.Parted dataset first schemas parts) (mapping : (schemas.map Prod.fst).Nodup)
    (here : p ∈ parts) (there : q ∈ parts) (differs : p ≠ q) {s : Submission} (submitted : s ∈ q.2.2) :
    s.view ∉ t.viewNames dataset first p.1 := by
  refine (parted.fared q there).apart (parted.inside there) (parted.inside here) ?_ submitted
  exact fun same => differs (List.inj_on_of_nodup_map (parted.nodup_names mapping) here there same)

/-- What the record has of the views of a schema is its part. -/
theorem filter_eq (parted : t.Parted dataset first schemas parts)
    (mapping : (schemas.map Prod.fst).Nodup) (here : p ∈ parts) :
    (parts.flatMap (·.2.2)).filter (fun s => s.view ∈ t.viewNames dataset first p.1) = p.2.2 := by
  refine filter_flatMap_eq (parted.nodup_names mapping).of_map here ?_ ?_
  · exact fun s submitted => decide_eq_true ((parted.fared p here).submission submitted).1
  · exact fun q there differs s submitted =>
      decide_eq_false (parted.apart mapping here there (Ne.symm differs) submitted)

theorem each (parted : t.Parted dataset first schemas parts) (mapping : (schemas.map Prod.fst).Nodup)
    {entry : String × Schema} (among : entry ∈ schemas) {r : SchemaResult}
    (result : r ∈ parts.map (·.2.1)) (own : r.schema = entry.1) :
    r.Progress (t.compiled dataset first entry)
      ((parts.flatMap (·.2.2)).filter fun s => s.view ∈ t.viewNames dataset first entry) := by
  obtain ⟨p, here, rfl⟩ := List.mem_map.mp result
  obtain rfl : p.1 = entry :=
    eq_of_name mapping (parted.inside here) among ((parted.schema_eq here).symm.trans own)
  rw [parted.filter_eq mapping here]
  exact (parted.fared p here).compiles.progress

theorem once (parted : t.Parted dataset first schemas parts) (mapping : (schemas.map Prod.fst).Nodup) :
    ((parts.flatMap (·.2.2)).map Submission.view).Nodup := by
  rw [List.map_flatMap, List.nodup_flatMap]
  refine ⟨fun p here => (parted.fared p here).nodup, ?_⟩
  refine (parted.nodup_names mapping).of_map.pairwise_of_forall_ne fun p here q there differs => ?_
  intro view own other
  obtain ⟨s, submitted, rfl⟩ := List.mem_map.mp other
  obtain ⟨s', submitted', same⟩ := List.mem_map.mp own
  refine parted.apart mapping here there differs submitted ?_
  exact same ▸ ((parted.fared p here).submission submitted').1

theorem readsFirst (parted : t.Parted dataset first schemas parts) :
    ReadsFirst dataset (schemas.filterMap (t.compiled dataset first)) (parts.flatMap (·.2.2)) := by
  intro before s after split
  obtain ⟨p, here, own, behind, at_p, earlier, rfl⟩ := split_flatMap split
  have course := (parted.fared p here).compiles
  obtain ⟨laid, compiles, _⟩ := course.position at_p
  rw [compiles] at course
  obtain ⟨_, one, view, among, same, reads⟩ :=
    course.readsFirst (compile_of_compiled compiles) own s behind at_p
  obtain rfl := List.mem_singleton.mp one
  refine ⟨_, List.mem_filterMap.mpr ⟨p.1, parted.inside here, compiles⟩, view, among, same, ?_⟩
  intro name needed
  rw [Submission.acceptedNames_append]
  exact List.mem_append_right _ (reads name needed)

theorem progressed (parted : t.Parted dataset first schemas parts)
    (mapping : (schemas.map Prod.fst).Nodup) :
    t.Progressed dataset first schemas (parts.map (·.2.1)) (parts.flatMap (·.2.2)) where
  inOrder := by
    rw [← parted.listed, List.map_map, List.map_map]
    exact List.map_congr_left fun p here => parted.schema_eq here
  each := fun _ among _ result own => parted.each mapping among result own
  once := parted.once mapping
  readsFirst := parted.readsFirst

end Parted

/-- The final drafts of a batch leave a record in parts. -/
theorem finalDrafts_parted (t : Target) {m : Option (ViewManager σ)}
    (reports : ∀ manager ∈ m, manager.Reports) (dataset : String) (first : Option String)
    (schemas : List (String × Schema)) (state : σ) :
    let run := installDrafts (m.map ViewManager.recorded) dataset (state, [])
      (schemas.map (t.finalDraft dataset first schemas))
    ∃ parts, t.Parted dataset first schemas parts ∧ run.result = .ok (parts.map (·.2.1)) ∧
      run.state.2 = parts.flatMap (·.2.2) := by
  have named : ∀ entry ∈ schemas, ∀ views, (t.finalDraft dataset first schemas entry).2 = .ok views →
      views.schema = (t.finalDraft dataset first schemas entry).1 := by
    intro entry _ views laid
    rw [finalDraft_name]
    exact (Option.some.inj (schema_of_compile (finalDraft_ok laid).2)).symm
  obtain ⟨parts, listed, results, record, fared⟩ :=
    installDrafts_fared reports dataset (t.finalDraft dataset first schemas) named state []
  exact ⟨parts, ⟨listed, fared⟩, results, record⟩

/-- In a shipped dialect a batch ends with results. -/
theorem results_of_shipped (shipped : t.dialect ∈ Sql.dialects) {m : Option (ViewManager σ)}
    (reports : ∀ manager ∈ m, manager.Reports) (state : σ) :
    ∃ results, (t.deployAll (m.map ViewManager.recorded) dataset first schemas (state, [])).result =
      .ok results := by
  cases schemas with
  | nil => exact ⟨[], rfl⟩
  | cons entry rest =>
    have drafted := drafts_result (Sql.Dialect.regular_of_mem shipped) dataset first (entry :: rest)
    obtain ⟨parts, _, made, _⟩ := t.finalDrafts_parted reports dataset first (entry :: rest) state
    exact ⟨_, (deployAll_installs (List.cons_ne_nil _ _) drafted _).result.trans made⟩

/-- A batch with results is known to have progressed. -/
theorem progressed_of_deployAll {m : Option (ViewManager σ)} (reports : ∀ manager ∈ m, manager.Reports)
    (mapping : (schemas.map Prod.fst).Nodup) {state : σ} {results : List SchemaResult}
    (ended : (t.deployAll (m.map ViewManager.recorded) dataset first schemas (state, [])).result =
      .ok results) :
    t.Progressed dataset first schemas results
      (t.deployAll (m.map ViewManager.recorded) dataset first schemas (state, [])).state.2 := by
  obtain ⟨same, kept⟩ := deployAll_ok ended
  obtain ⟨parts, parted, made, record⟩ := t.finalDrafts_parted reports dataset first schemas state
  rw [kept, record]
  rw [ended, made] at same
  cases same
  exact parted.progressed mapping

/-- Under a view manager that may refuse any view for errors of the family, or under none, the schemas
of a batch progress in order, and so does a schema alone; a record of what is submitted changes neither
results nor states. In a shipped dialect a batch always ends with results. -/
theorem installation_progresses {σ : Type} (t : Target) {m : Option (ViewManager σ)}
    (reports : ∀ manager ∈ m, manager.Reports) (dataset : String) (first : Option String)
    {schemas : List (String × Schema)} (mapping : (schemas.map Prod.fst).Nodup) (state : σ) :
    (t.deployAll (m.map ViewManager.recorded) dataset first schemas (state, [])).EndsAs
        (fun recorded plain => recorded.1 = plain) (t.deployAll m dataset first schemas state) ∧
    (t.dialect ∈ Sql.dialects →
      ∃ results, (t.deployAll m dataset first schemas state).result = .ok results) ∧
    (∀ results, (t.deployAll m dataset first schemas state).result = .ok results →
      t.Progressed dataset first schemas results
        (t.deployAll (m.map ViewManager.recorded) dataset first schemas (state, [])).state.2) ∧
    ∀ schemaName schema changelog,
      (t.deploy (m.map ViewManager.recorded) dataset first schemaName schema changelog
        (state, [])).EndsAs (fun recorded plain => recorded.1 = plain)
          (t.deploy m dataset first schemaName schema changelog state) ∧
      t.DeployedAlone dataset first schemaName schema changelog
        (t.deploy m dataset first schemaName schema changelog state).result
        (t.deploy (m.map ViewManager.recorded) dataset first schemaName schema changelog
          (state, [])).state.2 := by
  have alike := ViewManager.recorded_bothReplyAs m dataset
  have batch := t.deployAll_endsAs alike (s := (state, [])) (u := state) rfl first schemas
  refine ⟨batch, ?_, ?_, ?_⟩
  · intro shipped
    rw [← batch.result]
    exact results_of_shipped shipped reports state
  · intro results ended
    exact progressed_of_deployAll reports mapping (batch.result.trans ended)
  · intro schemaName schema changelog
    have one :=
      t.deploy_endsAs alike (s := (state, [])) (u := state) rfl first schemaName schema changelog
    refine ⟨one, ?_⟩
    rw [← one.result]
    exact t.deploy_alone reports dataset first schemaName schema changelog state

/-- Refuses the third view that it is asked for. -/
def refusesThird : ViewManager Nat where
  create asked _ _ _ :=
    ⟨asked + 1, [], orStop (if asked = 2 then .error (.of (.rejected (.described "no") none)) else .ok ())⟩

/-- A schema with an array, and one without. -/
def twoSchemas : List (String × Schema) :=
  [("one", ⟨[.ofKind (.ofString "a") .array]⟩), ("two", ⟨[]⟩)]

theorem twoSchemas_progress :
    ∃ results, (deployAll ⟨Sql.DuckDb.dialect, "p", .standard⟩ (some refusesThird) "d" (some "f")
        twoSchemas 0).result = .ok results ∧
      Progressed ⟨Sql.DuckDb.dialect, "p", .standard⟩ "d" (some "f") twoSchemas results
        (deployAll ⟨Sql.DuckDb.dialect, "p", .standard⟩ (some refusesThird.recorded) "d" (some "f")
          twoSchemas (0, [])).state.2 ∧
      results.map SchemaResult.stage = [.topViewCreated, .done] := by
  have reports : ∀ manager ∈ some refusesThird, manager.Reports := by
    rintro manager ⟨⟩ asked dataset view query failure failed
    unfold refusesThird at failed
    simp only at failed
    split at failed
    · exact ⟨_, (Except.error.inj failed).symm⟩
    · cases failed
  have mapping : (twoSchemas.map Prod.fst).Nodup := by decide
  obtain ⟨_, ends, progressed, _⟩ := installation_progresses
    ⟨Sql.DuckDb.dialect, "p", .standard⟩ reports "d" (some "f") mapping 0
  obtain ⟨results, ended⟩ := ends (by simp [Sql.dialects])
  refine ⟨results, ended, progressed results ended, ?_⟩
  have run : (deployAll ⟨Sql.DuckDb.dialect, "p", .standard⟩ (some refusesThird) "d" (some "f")
      twoSchemas 0).result.map (·.map SchemaResult.stage) = .ok [.topViewCreated, .done] := by
    simp only [twoSchemas, deployAll, drafts, compile, layOut_eq]
    rfl
  rw [ended] at run
  exact Except.ok.inj run

end Target
end ChangelogViews
