import ChangelogViews.Views.Installed

/-!
# Installing many schemas

The schemas of a batch are compiled first, one by one, and a name that two of them give to a view fails
both. What is left is installed in order, and one schema that fails does not stop the others.
-/

namespace ChangelogViews

/-- What was compiled for a schema of a batch, or why nothing was. -/
abbrev Draft := String × Except ViewError SchemaViews

def draftFailed (schema : String) (e : ViewError) : LogEntry :=
  .ofFactory .error s!"Failed to compile schema {schema}: {e.text}"

/-- Compiles the schemas of a batch. A failure outside the error family ends the batch. -/
def Target.drafts (t : Target) (dataset : String) (first : Option String) :
    List (String × Schema) → List LogEntry × Except Failure (List Draft)
  | [] => ([], .ok [])
  | (name, schema) :: rest =>
    match t.compile dataset first (some name) schema none with
    | .ok views =>
      let (logs, later) := t.drafts dataset first rest
      (logs, later.map ((name, .ok views) :: ·))
    | .error (.views e) =>
      let (logs, later) := t.drafts dataset first rest
      (draftFailed name e :: logs, later.map ((name, .error e) :: ·))
    | .error failure => ([], .error failure)

def laidOut (drafts : List Draft) : List (String × SchemaViews) :=
  drafts.filterMap fun (name, draft) =>
    match draft with
    | .ok views => some (name, views)
    | .error _ => none

/-- The state of `_cross_schema_collisions`: the first owner of each view name, and the error of each schema
that shares one. -/
structure Sharing where
  owners : List (String × String)
  clashes : List (String × ViewError)

namespace Sharing

def blame (s : Sharing) (schema : String) (e : ViewError) : Sharing :=
  if (member? s.clashes schema).isSome then s
  else { s with clashes := s.clashes ++ [(schema, e)] }

def clash (schema view first second : String) : ViewError :=
  ⟨.malformed (.viewShared view first second), ⟨some schema, some view, none⟩⟩

/-- A schema generates a view name. -/
def note (s : Sharing) (schema view : String) : Sharing :=
  match member? s.owners view with
  | none => { s with owners := s.owners ++ [(view, schema)] }
  | some other =>
    if other = schema then s
    else (s.blame other (clash other view other schema)).blame schema
      (clash schema view other schema)

/-- `_cross_schema_collisions`. -/
def of (schemas : List (String × SchemaViews)) : Sharing :=
  schemas.foldl (fun s (schema, views) => views.all.foldl (fun s view => s.note schema view.name) s)
    ⟨[], []⟩

end Sharing

def installFailed (result : SchemaResult) (e : ViewError) : LogEntry :=
  .ofFactory .error
    (s!"Failed to create views for schema {result.schema} (reached {result.stage.name}): " ++ e.text)

/-- The drafts with the errors of colliding view names in place. -/
def withClashes (clashes : List (String × ViewError)) (drafts : List Draft) : List Draft :=
  drafts.map fun (name, draft) =>
    match member? clashes name with
    | some e => (name, .error e)
    | none => (name, draft)

/-- Installs the drafts in order. A failure outside the error family ends the batch. -/
def installDrafts {σ : Type} (m : Option (ViewManager σ)) (dataset : String) (state : σ) :
    List Draft → Outcome σ (Except Failure (List SchemaResult))
  | [] => ⟨state, [], .ok []⟩
  | (name, .error e) :: rest =>
    let later := installDrafts m dataset state rest
    { later with result := later.result.map ({ SchemaResult.start name with error := some e } :: ·) }
  | (_, .ok views) :: rest =>
    let run := ViewManager.installIn m dataset views state
    match run.result with
    | (result, none) =>
      let later := installDrafts m dataset run.state rest
      ⟨later.state, run.logs ++ later.logs, later.result.map (result :: ·)⟩
    | (result, some (.views e)) =>
      let later := installDrafts m dataset run.state rest
      ⟨later.state, run.logs ++ installFailed result e :: later.logs,
        later.result.map ({ result with error := some e } :: ·)⟩
    | (_, some failure) => ⟨run.state, run.logs, .error failure⟩

/-- `initialize_all`. -/
def Target.deployAll {σ : Type} (t : Target) (m : Option (ViewManager σ)) (dataset : String)
    (first : Option String) (schemas : List (String × Schema)) (state : σ) :
    Outcome σ (Except Failure (List SchemaResult)) :=
  match schemas with
  | [] => ⟨state, [.ofFactory .warning s!"No schemas to compile for dataset {dataset}"], .ok []⟩
  | _ :: _ =>
    let (logs, drafts) := t.drafts dataset first schemas
    match drafts with
    | .error failure => ⟨state, logs, .error failure⟩
    | .ok drafts =>
      let clashes := (Sharing.of (laidOut drafts)).clashes
      let run := installDrafts m dataset state (withClashes clashes drafts)
      { run with logs := logs ++ clashes.map (fun (name, e) => draftFailed name e) ++ run.logs }

end ChangelogViews
