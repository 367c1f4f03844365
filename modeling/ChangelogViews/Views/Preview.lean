import ChangelogViews.Views.Compiled

/-!
# Previews

What would be created for the schemas of a batch, as statements. No database is needed, and a schema that
cannot be compiled does not stop the others.
-/

namespace ChangelogViews

structure Preview where
  schema : String
  statements : Except ViewError (List String)
  deriving Repr

def Target.schemaStatements (t : Target) (dataset : String) (first : Option String) (name : String)
    (schema : Schema) : Except Failure (List String) := do
  let views ← t.compile dataset first (some name) schema none
  orSqlStop (t.statements dataset views)

/-- `print_statements`: the statements of each schema that compiles, and the failure that ended the work if
one outside the error family did. -/
def Target.preview (t : Target) (dataset : String) (first : Option String) :
    List (String × Schema) → List Preview × Option Failure
  | [] => ([], none)
  | (name, schema) :: rest =>
    match t.schemaStatements dataset first name schema with
    | .ok statements =>
      let (later, failure) := t.preview dataset first rest
      (⟨name, .ok statements⟩ :: later, failure)
    | .error (.views e) =>
      let (later, failure) := t.preview dataset first rest
      (⟨name, .error e⟩ :: later, failure)
    | .error failure => ([], some failure)

end ChangelogViews
