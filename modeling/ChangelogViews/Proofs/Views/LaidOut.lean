import ChangelogViews.Proofs.Attempts
import ChangelogViews.Proofs.Views.ArrayViews

/-!
# Compiled schemas

Compiling a schema takes the columns of the top view, then the views of its array nodes, and checks that no
two views have one name (`layOut_eq`). From this comes what is known of the views of a schema (`layOut_ok`),
and where compiling it ended if there are none (`layOut_error`).
-/

namespace ChangelogViews
namespace Target

def childSite (t : Target) (spelling : Sql.Spelling) (dataset first name : String) : ChildSite :=
  let snapshot := Names.snapshot (some first) (some name)
  ⟨t.dialect, spelling, t.layout, Names.top (some first) (some name), snapshot,
    spelling.tableRef t.project dataset snapshot⟩

/-- The table that the snapshot is taken from. -/
def changelogTable (first : String) : Option String → String
  | some table => if table = "" then Names.rawChangelog (some first) else table
  | none => Names.rawChangelog (some first)

def topFlat (t : Target) (spelling : Sql.Spelling) (schema : Schema) : Except ViewError Flat :=
  flatten t.dialect (spelling.quote t.layout.data) [] [t.layout.documentName] schema.fields

/-- Compiling the top view walks over its places. -/
theorem topFlat_eq_walk (t : Target) (spelling : Sql.Spelling) (schema : Schema) :
    t.topFlat spelling schema = takeSteps (reservedLabels [t.layout.documentName])
      (walk t.dialect (spelling.quote t.layout.data) (placesIn [] [] [] [] schema.fields)) :=
  flatten_eq_walk _ _ [] [] _ _

/-- The views of the arrays of a schema. -/
def arrayViews (t : Target) (spelling : Sql.Spelling) (dataset first name : String)
    (schema : Schema) : Except Failure (List View) :=
  schema.arrayNodes.mapM
    ((t.childSite spelling dataset first name).nodeView (spelling.quote t.layout.data))

def assembled (t : Target) (spelling : Sql.Spelling) (dataset first name : String)
    (changelog : Option String) (columns : List Column) (children : List View) : SchemaViews where
  schema := name
  snapshot := .of spelling (Names.snapshot (some first) (some name))
    (Sql.snapshotQuery spelling
      (spelling.tableRef t.project dataset (changelogTable first changelog)) t.layout) []
  top := .of spelling (Names.top (some first) (some name))
    (Sql.typedQuery (spelling.tableRef t.project dataset (Names.snapshot (some first) (some name)))
      t.layout columns) [Names.snapshot (some first) (some name)]
  children := children

/-- `_check_unique_view_names`. -/
def withoutRepeats (views : SchemaViews) : Except Failure SchemaViews :=
  match firstRepeated [] (views.all.map View.name) with
  | some view => .error (.views ⟨.malformed (.viewTwice view), ⟨none, some view, none⟩⟩)
  | none => .ok views

private theorem requireWord_ok {given : Option String} {problem : Malformation} {name : String}
    (proper : requireWord given problem = .ok name) :
    given = some name ∧ NameRule.word.accepts name = true := by
  unfold requireWord at proper
  split at proper
  · split at proper
    · next accepted => cases proper; exact ⟨rfl, accepted⟩
    · cases proper
  · cases proper

theorem requireWord_error {given : Option String} {problem : Malformation} {e : ViewError}
    (improper : requireWord given problem = .error e) : e = .of (.malformed problem) := by
  unfold requireWord at improper
  split at improper
  · split at improper
    · cases improper
    · cases improper; rfl
  · cases improper; rfl

/-- The parts of the view names, both of which have to be words. -/
def properNames (first schemaName : Option String) : Except ViewError (String × String) := do
  let firstName ← requireWord first (.badPrefix first)
  let name ← requireWord schemaName (.badSchemaName schemaName)
  return (firstName, name)

theorem properNames_ok {first schemaName : Option String} {names : String × String}
    (proper : properNames first schemaName = .ok names) :
    first = some names.1 ∧ schemaName = some names.2 := by
  obtain ⟨firstName, first_ok, later⟩ := bind_ok proper
  obtain ⟨name, name_ok, made⟩ := bind_ok later
  cases made
  exact ⟨(requireWord_ok first_ok).1, (requireWord_ok name_ok).1⟩

theorem accepts_of_properNames {first schemaName : Option String} {names : String × String}
    (proper : properNames first schemaName = .ok names) :
    NameRule.word.accepts names.1 = true ∧ NameRule.word.accepts names.2 = true := by
  obtain ⟨firstName, first_ok, later⟩ := bind_ok proper
  obtain ⟨name, name_ok, made⟩ := bind_ok later
  cases made
  exact ⟨(requireWord_ok first_ok).2, (requireWord_ok name_ok).2⟩

/-- `_compile` takes proper names, the top view and the arrays of the tree, and no view name twice. -/
theorem layOut_eq (t : Target) (dataset : String) (first schemaName : Option String)
    (schema : Schema) (changelog : Option String) :
    t.layOut dataset first schemaName schema changelog = (do
      let names ← orStop (properNames first schemaName)
      let spelling ← orSqlStop t.dialect.spelled
      let flat ← orStop (t.topFlat spelling schema)
      let children ← t.arrayViews spelling dataset names.1 names.2 schema
      withoutRepeats (t.assembled spelling dataset names.1 names.2 changelog flat.columns children)) := by
  unfold layOut properNames
  cases requireWord first (.badPrefix first) with
  | error e => rfl
  | ok firstName =>
    cases requireWord schemaName (.badSchemaName schemaName) with
    | error e => rfl
    | ok name =>
      cases t.dialect.spelled with
      | error fault => rfl
      | ok spelling =>
        simp only [orStop, orSqlStop, bind, Except.bind, pure, Except.pure]
        cases passed : t.topFlat spelling schema with
        | error e =>
          unfold topFlat at passed
          simp only [passed]
        | ok flat =>
          have arrays := ChildSite.views_of_schema passed (t.childSite spelling dataset firstName name)
            (spelling.quote t.layout.data)
          unfold topFlat at passed
          unfold arrayViews
          rw [← arrays]
          cases laid : (t.childSite spelling dataset firstName name).views
              ⟨[], [], spelling.quote t.layout.data⟩ flat.children with
          | error e =>
            unfold childSite at laid
            simp only [passed, laid]
          | ok children =>
            unfold childSite at laid
            simp only [passed, laid]
            rfl

/-- No name stands twice, nor again where it was seen before. -/
theorem nodup_of_firstRepeated {seen names : List String} (once : firstRepeated seen names = none) :
    names.Nodup ∧ ∀ name ∈ names, name ∉ seen := by
  induction names generalizing seen with
  | nil => exact ⟨List.nodup_nil, fun name inside => absurd inside List.not_mem_nil⟩
  | cons name rest ih =>
    unfold firstRepeated at once
    split at once
    · cases once
    · next fresh =>
      obtain ⟨apart, unseen⟩ := ih once
      have own : name ∉ seen := by simpa using fresh
      refine ⟨List.nodup_cons.mpr ⟨fun again => ?_, apart⟩, ?_⟩
      · exact unseen name again List.mem_cons_self
      · intro other inside
        rcases List.mem_cons.mp inside with rfl | inside
        · exact own
        · exact fun before => unseen other inside (List.mem_cons_of_mem _ before)

private theorem withoutRepeats_ok {views kept : SchemaViews} (once : withoutRepeats views = .ok kept) :
    kept = views ∧ (views.all.map View.name).Nodup := by
  unfold withoutRepeats at once
  split at once
  · cases once
  · next none =>
    cases once
    exact ⟨rfl, (nodup_of_firstRepeated none).1⟩

private theorem orStop_ok {α : Type} {x : Except ViewError α} {a : α} (ok : orStop x = .ok a) :
    x = .ok a := by
  cases x with
  | error e => cases ok
  | ok b => cases ok; rfl

private theorem orSqlStop_ok {α : Type} {x : Except SqlFault α} {a : α} (ok : orSqlStop x = .ok a) :
    x = .ok a := by
  cases x with
  | error fault => cases ok
  | ok b => cases ok; rfl

private theorem orStop_error {α : Type} {x : Except ViewError α} {failure : Failure}
    (failed : orStop x = .error failure) : ∃ e, x = .error e ∧ failure = .views e := by
  cases x with
  | error e => cases failed; exact ⟨e, rfl, rfl⟩
  | ok a => cases failed

private theorem orSqlStop_error {α : Type} {x : Except SqlFault α} {failure : Failure}
    (failed : orSqlStop x = .error failure) : ∃ fault, x = .error fault ∧ failure = .sql fault := by
  cases x with
  | error fault => cases failed; exact ⟨fault, rfl, rfl⟩
  | ok a => cases failed

/-- What is known of views that were compiled. -/
theorem layOut_ok {t : Target} {dataset : String} {first schemaName : Option String} {schema : Schema}
    {changelog : Option String} {views : SchemaViews}
    (done : t.layOut dataset first schemaName schema changelog = .ok views) :
    ∃ names spelling flat, properNames first schemaName = .ok names ∧
      t.dialect.spelled = .ok spelling ∧ t.topFlat spelling schema = .ok flat ∧
      t.arrayViews spelling dataset names.1 names.2 schema = .ok views.children ∧
      views = t.assembled spelling dataset names.1 names.2 changelog flat.columns views.children ∧
      (views.all.map View.name).Nodup := by
  rw [layOut_eq] at done
  obtain ⟨names, proper, done⟩ := bind_ok done
  obtain ⟨spelling, spelled, done⟩ := bind_ok done
  obtain ⟨flat, top, done⟩ := bind_ok done
  obtain ⟨children, arrays, done⟩ := bind_ok done
  obtain ⟨rfl, apart⟩ := withoutRepeats_ok done
  exact ⟨names, spelling, flat, orStop_ok proper, orSqlStop_ok spelled, orStop_ok top, arrays, rfl,
    apart⟩

theorem compile_ok {t : Target} {dataset : String} {first schemaName : Option String}
    {schema : Schema} {changelog : Option String} {views : SchemaViews}
    (done : t.compile dataset first schemaName schema changelog = .ok views) :
    t.layOut dataset first schemaName schema changelog = .ok views := by
  unfold compile at done
  split at done
  · cases done
  · exact done

/-- The views of a schema carry the name that it was compiled under. -/
theorem schema_of_compile {t : Target} {dataset : String} {first schemaName : Option String}
    {schema : Schema} {changelog : Option String} {views : SchemaViews}
    (done : t.compile dataset first schemaName schema changelog = .ok views) :
    schemaName = some views.schema := by
  obtain ⟨names, _, _, proper, _, _, _, laid, _⟩ := layOut_ok (compile_ok done)
  rw [laid]
  exact (properNames_ok proper).2

/-- No two views of a schema have one name. -/
theorem nodup_of_compile {t : Target} {dataset : String} {first schemaName : Option String}
    {schema : Schema} {changelog : Option String} {views : SchemaViews}
    (done : t.compile dataset first schemaName schema changelog = .ok views) :
    (views.all.map View.name).Nodup := by
  obtain ⟨_, _, _, _, _, _, _, _, apart⟩ := layOut_ok (compile_ok done)
  exact apart

/-- The statements for the views of a schema name each view in the spelling of the dialect. -/
theorem statements_eq {t : Target} {spelling : Sql.Spelling} (spelled : t.dialect.spelled = .ok spelling)
    (dataset : String) (views : SchemaViews) :
    t.statements dataset views = .ok (views.all.map fun view =>
      Sql.createStatement (spelling.tableRef t.project dataset view.name) view.sql) := by
  refine mapM_of_ok (fun view => ?_) views.all
  unfold statement viewRef
  rw [spelled]
  rfl

/-- Where compiling a schema ends without views. -/
inductive Stopped (t : Target) (dataset : String) (first schemaName : Option String)
    (schema : Schema) : Failure → Prop
  | misnamed {e : ViewError} (improper : properNames first schemaName = .error e) :
      Stopped t dataset first schemaName schema (.views e)
  | unspelled {fault : SqlFault} (silent : t.dialect.spelled = .error fault) :
      Stopped t dataset first schemaName schema (.sql fault)
  | atTop {names : String × String} {spelling : Sql.Spelling} {e : ViewError}
      (proper : properNames first schemaName = .ok names) (spelled : t.dialect.spelled = .ok spelling)
      (failed : t.topFlat spelling schema = .error e) :
      Stopped t dataset first schemaName schema (.views e)
  | atArray {names : String × String} {spelling : Sql.Spelling} {flat : Flat} {failure : Failure}
      (proper : properNames first schemaName = .ok names) (spelled : t.dialect.spelled = .ok spelling)
      (top : t.topFlat spelling schema = .ok flat)
      (failed : t.arrayViews spelling dataset names.1 names.2 schema = .error failure) :
      Stopped t dataset first schemaName schema failure
  | twice {view : String} :
      Stopped t dataset first schemaName schema
        (.views ⟨.malformed (.viewTwice view), ⟨none, some view, none⟩⟩)

theorem layOut_error {t : Target} {dataset : String} {first schemaName : Option String}
    {schema : Schema} {changelog : Option String} {failure : Failure}
    (failed : t.layOut dataset first schemaName schema changelog = .error failure) :
    Stopped t dataset first schemaName schema failure := by
  rw [layOut_eq] at failed
  rcases bind_error failed with stop | ⟨names, proper, failed⟩
  · obtain ⟨e, improper, rfl⟩ := orStop_error stop
    exact .misnamed improper
  rcases bind_error failed with stop | ⟨spelling, spelled, failed⟩
  · obtain ⟨fault, silent, rfl⟩ := orSqlStop_error stop
    exact .unspelled silent
  rcases bind_error failed with stop | ⟨flat, top, failed⟩
  · obtain ⟨e, faulty, rfl⟩ := orStop_error stop
    exact .atTop (orStop_ok proper) (orSqlStop_ok spelled) faulty
  rcases bind_error failed with stop | ⟨children, _, failed⟩
  · exact .atArray (orStop_ok proper) (orSqlStop_ok spelled) (orStop_ok top) stop
  · unfold withoutRepeats at failed
    split at failed
    · cases failed; exact .twice
    · cases failed

/-- A schema learns its name where an error of its own ends the work. -/
theorem compile_error {t : Target} {dataset : String} {first schemaName : Option String}
    {schema : Schema} {changelog : Option String} {e : ViewError}
    (failed : t.compile dataset first schemaName schema changelog = .error (.views e)) :
    ∃ inner, t.layOut dataset first schemaName schema changelog = .error (.views inner) ∧
      e = inner.addContext ⟨schemaName, none, none⟩ := by
  unfold compile at failed
  split at failed
  · next inner stopped => cases failed; exact ⟨inner, stopped, rfl⟩
  · next other => exact absurd failed (other e)

end Target
end ChangelogViews
