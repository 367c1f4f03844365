import ChangelogViews.Naming
import ChangelogViews.Views.Children

/-!
# The views of a schema

Compiling the views of a schema: the snapshot, the view with the typed columns, and one view for each array,
where an array comes before those inside its elements. Nothing is created here.
-/

namespace ChangelogViews

/-- `ViewDefinition`, with the query that its text renders. -/
structure View where
  name : String
  query : Sql.Select
  sql : String
  dependsOn : List String
  deriving DecidableEq, Repr

def View.of (spelling : Sql.Spelling) (name : String) (query : Sql.Select)
    (dependsOn : List String) : View :=
  ⟨name, query, query.render spelling.quote, dependsOn⟩

/-- `SchemaViews`. -/
structure SchemaViews where
  schema : String
  snapshot : View
  top : View
  children : List View
  deriving DecidableEq, Repr

/-- The `definitions`, in creation order. -/
def SchemaViews.all (views : SchemaViews) : List View := views.snapshot :: views.top :: views.children

/-- The part of `FirestoreSchemaViewFactory` that compiles: a dialect, a project, and the layout of the
changelog. -/
structure Target where
  dialect : Sql.Dialect
  project : String
  layout : ChangelogLayout

namespace Target

/-- `view_ref`. -/
def viewRef (t : Target) (dataset name : String) : Except SqlFault String := do
  return (← t.dialect.spelled).tableRef t.project dataset name

end Target

structure ChildSite where
  dialect : Sql.Dialect
  spelling : Sql.Spelling
  layout : ChangelogLayout
  top : String
  snapshot : String
  snapshotRef : String

/-- What `_compile_children` is given for some children: the key path, the levels and the source around them. -/
structure Enclosing where
  keyPath : List String
  levels : List UnnestLevel
  source : String

/-- The `UnnestLevel` that the array of a child adds to those around it. -/
def Enclosing.level (outer : Enclosing) (child : ChildSchema) : UnnestLevel :=
  let label := joined (outer.keyPath ++ child.path)
  ⟨outer.source, Sql.jsonPath child.jsonPath, s!"{label}_member", s!"{label}_index"⟩

namespace ChildSite

def inside (site : ChildSite) (outer : Enclosing) (child : ChildSchema) : Enclosing :=
  let level := outer.level child
  ⟨outer.keyPath ++ child.path, outer.levels ++ [level], site.spelling.quote level.member⟩

/-- The path that errors in an element are anchored to: the key path of the array, less the name of the array
for an element at the root, whose field has that name too. -/
def anchor (inner : Enclosing) (child : ChildSchema) : List String :=
  match child.content with
  | .members _ => inner.keyPath
  | .atRoot _ => inner.keyPath.dropLast

def anchored (anchor : List String) (e : ViewError) : ViewError :=
  let own := e.context.field.toList.filter (· ≠ "")
  { e with context := { e.context with field := some (dotted (anchor ++ own)) } }

def flat (site : ChildSite) (outer : Enclosing) (child : ChildSchema) : Except ViewError Flat :=
  let inner := site.inside outer child
  child.flatten site.dialect inner.source
    (site.layout.documentName :: inner.levels.map UnnestLevel.index)

def view (site : ChildSite) (outer : Enclosing) (child : ChildSchema) (flat : Flat) :
    Except SqlFault View := do
  let inner := site.inside outer child
  let query ← Sql.childQuery site.dialect site.snapshotRef site.layout inner.levels flat.columns
  return .of site.spelling s!"{site.top}_{joined inner.keyPath}" query [site.snapshot]

/-- `_compile_children`: the view of each child, followed by those of the arrays in its elements. -/
def views (site : ChildSite) (outer : Enclosing) : List ChildSchema → Except Failure (List View)
  | [] => .ok []
  | child :: rest =>
    match _ : site.flat outer child with
    | .error e => .error (.views (anchored (anchor (site.inside outer child) child) e))
    | .ok flat =>
      match site.view outer child flat with
      | .error fault => .error (.sql fault)
      | .ok view => do
        let below ← views site (site.inside outer child) flat.children
        let others ← views site outer rest
        return view :: below ++ others
  termination_by children => childrenSize children
  decreasing_by
    · have le := childrenSize_flatten_le ‹site.flat outer child = .ok _›
      simp only [childrenSize]
      omega
    · simp only [childrenSize]
      omega

end ChildSite

def requireWord (given : Option String) (problem : Malformation) : Except ViewError String :=
  match given with
  | some name => if NameRule.word.accepts name then .ok name else .error (.of (.malformed problem))
  | none => .error (.of (.malformed problem))

/-- `_check_unique_view_names`: the first name that is listed a second time. -/
def firstRepeated (seen : List String) : List String → Option String
  | [] => none
  | name :: rest => if seen.contains name then some name else firstRepeated (name :: seen) rest

def orStop {α : Type} : Except ViewError α → Except Failure α
  | .ok a => .ok a
  | .error e => .error (.views e)

def orSqlStop {α : Type} : Except SqlFault α → Except Failure α
  | .ok a => .ok a
  | .error fault => .error (.sql fault)

namespace Target

/-- `_compile`. -/
def layOut (t : Target) (dataset : String) (first schemaName : Option String) (schema : Schema)
    (changelog : Option String) : Except Failure SchemaViews := do
  let firstName ← orStop (requireWord first (.badPrefix first))
  let name ← orStop (requireWord schemaName (.badSchemaName schemaName))
  let spelling ← orSqlStop t.dialect.spelled
  let ref := spelling.tableRef t.project dataset
  let table := match changelog with
    | some table => if table = "" then Names.rawChangelog (some firstName) else table
    | none => Names.rawChangelog (some firstName)
  let snapshotName := Names.snapshot (some firstName) (some name)
  let topName := Names.top (some firstName) (some name)
  let source := spelling.quote t.layout.data
  let flat ← orStop (flatten t.dialect source [] [t.layout.documentName] schema.fields)
  let site : ChildSite :=
    ⟨t.dialect, spelling, t.layout, topName, snapshotName, ref snapshotName⟩
  let children ← site.views ⟨[], [], source⟩ flat.children
  match firstRepeated [] (snapshotName :: topName :: children.map View.name) with
  | some view =>
    throw (.views ⟨.malformed (.viewTwice view), ⟨none, some view, none⟩⟩)
  | none =>
    return {
      schema := name
      snapshot := .of spelling snapshotName (Sql.snapshotQuery spelling (ref table) t.layout) []
      top := .of spelling topName (Sql.typedQuery (ref snapshotName) t.layout flat.columns)
        [snapshotName]
      children := children }

/-- `compile_schema_views`. -/
def compile (t : Target) (dataset : String) (first schemaName : Option String) (schema : Schema)
    (changelog : Option String) : Except Failure SchemaViews :=
  match t.layOut dataset first schemaName schema changelog with
  | .error (.views e) => .error (.views (e.addContext ⟨schemaName, none, none⟩))
  | outcome => outcome

/-- `create_view_statement`. -/
def statement (t : Target) (dataset : String) (view : View) : Except SqlFault String := do
  return Sql.createStatement (← t.viewRef dataset view.name) view.sql

/-- `render_create_statements`. -/
def statements (t : Target) (dataset : String) (views : SchemaViews) :
    Except SqlFault (List String) :=
  views.all.mapM (t.statement dataset)

end Target
end ChangelogViews
