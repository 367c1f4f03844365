import ChangelogViews.Views.Batch

/-!
# Managers that reply alike

All that a batch learns from a view manager are its replies. Where two managers reply alike as long as
their states are related, and relate the states that they leave behind, they give the same results
(`Target.deployAll_endsAs`).
-/

namespace ChangelogViews

variable {σ τ : Type}

/-- Two works end alike: with one result, and in related states. -/
structure Outcome.EndsAs {α : Type} (related : σ → τ → Prop) (run : Outcome σ α)
    (other : Outcome τ α) : Prop where
  result : run.result = other.result
  state : related run.state other.state

namespace ViewManager

/-- The managers reply alike to any view of a dataset from related states, and their states stay
related. -/
def RepliesAs (dataset : String) (related : σ → τ → Prop) (m : ViewManager σ) (n : ViewManager τ) :
    Prop :=
  ∀ s u, related s u → ∀ view query,
    (m.create s dataset view query).EndsAs related (n.create u dataset view query)

variable {dataset : String} {related : σ → τ → Prop}

section
variable {m : ViewManager σ} {n : ViewManager τ}

theorem submit_endsAs (alike : m.RepliesAs dataset related n) {s : σ} {u : τ} (start : related s u)
    (schema : String) (view : View) :
    (m.submit dataset schema view s).EndsAs related (n.submit dataset schema view u) := by
  obtain ⟨same, next⟩ := alike s u start view.name view.sql
  refine ⟨?_, next⟩
  unfold submit
  simp only [same]

theorem installEach_endsAs (alike : m.RepliesAs dataset related n) {s : σ} {u : τ}
    (start : related s u) (result : SchemaResult) (stages : List (View × Stage)) :
    (m.installEach dataset result s stages).EndsAs related (n.installEach dataset result u stages) := by
  induction stages generalizing result s u with
  | nil => exact ⟨rfl, start⟩
  | cons first rest ih =>
    obtain ⟨view, stage⟩ := first
    obtain ⟨same, next⟩ := submit_endsAs alike start result.schema view
    unfold installEach
    simp only [same]
    cases (n.submit dataset result.schema view u).result with
    | error failure => exact ⟨rfl, next⟩
    | ok done =>
      obtain ⟨same', next'⟩ := ih next (result.advance view.name stage)
      exact ⟨same', next'⟩

theorem install_endsAs (alike : m.RepliesAs dataset related n) {s : σ} {u : τ} (start : related s u)
    (views : SchemaViews) :
    (m.install dataset views s).EndsAs related (n.install dataset views u) := by
  obtain ⟨same, next⟩ := installEach_endsAs alike start (.start views.schema) views.stages
  unfold install
  simp only [same]
  obtain ⟨result, stop⟩ := (n.installEach dataset (.start views.schema) u views.stages).result
  cases stop with
  | none => exact ⟨rfl, next⟩
  | some failure => exact ⟨rfl, next⟩

end

/-- There are no managers, or two that reply alike. -/
inductive BothReplyAs (dataset : String) (related : σ → τ → Prop) :
    Option (ViewManager σ) → Option (ViewManager τ) → Prop
  | none : BothReplyAs dataset related none none
  | some {m : ViewManager σ} {n : ViewManager τ} (alike : m.RepliesAs dataset related n) :
      BothReplyAs dataset related (some m) (some n)

variable {m : Option (ViewManager σ)} {n : Option (ViewManager τ)}

theorem installIn_endsAs (alike : BothReplyAs dataset related m n) {s : σ} {u : τ}
    (start : related s u) (views : SchemaViews) :
    (installIn m dataset views s).EndsAs related (installIn n dataset views u) := by
  cases alike with
  | none => exact ⟨rfl, start⟩
  | some alike => exact install_endsAs alike start views

end ViewManager

section
variable {dataset : String} {related : σ → τ → Prop} {m : Option (ViewManager σ)}
  {n : Option (ViewManager τ)} {s : σ} {u : τ}

theorem installDrafts_endsAs (alike : ViewManager.BothReplyAs dataset related m n)
    (start : related s u) (drafts : List Draft) :
    (installDrafts m dataset s drafts).EndsAs related (installDrafts n dataset u drafts) := by
  induction drafts generalizing s u with
  | nil => exact ⟨rfl, start⟩
  | cons first rest ih =>
    obtain ⟨name, draft⟩ := first
    cases draft with
    | error e =>
      obtain ⟨same, next⟩ := ih start
      refine ⟨?_, next⟩
      simp only [installDrafts, same]
    | ok views =>
      obtain ⟨same, next⟩ := ViewManager.installIn_endsAs alike start views
      obtain ⟨same', next'⟩ := ih next
      unfold installDrafts
      simp only [same]
      obtain ⟨result, stop⟩ := (ViewManager.installIn n dataset views u).result
      match stop with
      | none => exact ⟨congrArg (Except.map (result :: ·)) same', next'⟩
      | some (.views e) =>
        exact ⟨congrArg (Except.map ({ result with error := some e } :: ·)) same', next'⟩
      | some (.sql fault) => exact ⟨rfl, next⟩
      | some (.foreign failure) => exact ⟨rfl, next⟩

namespace Target

theorem deployAll_endsAs (t : Target) (alike : ViewManager.BothReplyAs dataset related m n)
    (start : related s u) (first : Option String) (schemas : List (String × Schema)) :
    (t.deployAll m dataset first schemas s).EndsAs related
      (t.deployAll n dataset first schemas u) := by
  cases schemas with
  | nil => exact ⟨rfl, start⟩
  | cons entry rest =>
    unfold deployAll
    simp only
    cases (t.drafts dataset first (entry :: rest)).2 with
    | error failure => exact ⟨rfl, start⟩
    | ok drafts =>
      obtain ⟨same, next⟩ := installDrafts_endsAs alike start
        (withClashes (Sharing.of (laidOut drafts)).clashes drafts)
      exact ⟨same, next⟩

theorem deploy_endsAs (t : Target) (alike : ViewManager.BothReplyAs dataset related m n)
    (start : related s u) (first schemaName : Option String) (schema : Schema)
    (changelog : Option String) :
    (t.deploy m dataset first schemaName schema changelog s).EndsAs related
      (t.deploy n dataset first schemaName schema changelog u) := by
  unfold deploy
  cases t.compile dataset first schemaName schema changelog with
  | error failure => exact ⟨rfl, start⟩
  | ok views =>
    obtain ⟨same, next⟩ := ViewManager.installIn_endsAs alike start views
    simp only [same]
    obtain ⟨result, stop⟩ := (ViewManager.installIn n dataset views u).result
    cases stop with
    | none => exact ⟨rfl, next⟩
    | some failure => exact ⟨rfl, next⟩

end Target
end
end ChangelogViews
