import ChangelogViews.Proofs.Views.LaidOut
import ChangelogViews.Sql.Dialects

/-!
# Layers of views

The typed views lie over the snapshot and the snapshot over the raw changelog. Of the layout of the
changelog the typed views read the name of a document and the column of its data, and what else it says
shows in the snapshot alone; the snapshot in turn reads nothing of the fields of a schema
(`layers_apart`).
-/

namespace ChangelogViews

/-- The layouts agree on what is read above the snapshot: the name of a document, and its data. -/
structure ChangelogLayout.SameAbove (layout layout' : ChangelogLayout) : Prop where
  documentName : layout'.documentName = layout.documentName
  data : layout'.data = layout.data

/-- All views but the snapshot are the same, and the snapshot goes by the same name. -/
structure SchemaViews.SameAbove (views views' : SchemaViews) : Prop where
  schema : views'.schema = views.schema
  top : views'.top = views.top
  children : views'.children = views.children
  snapshotName : views'.snapshot.name = views.snapshot.name
  snapshotReads : views'.snapshot.dependsOn = views.snapshot.dependsOn

namespace Sql

variable {layout layout' : ChangelogLayout}

theorem typedQuery_sameAbove (same : layout.SameAbove layout') (snapshot : String)
    (columns : List Column) :
    typedQuery snapshot layout' columns = typedQuery snapshot layout columns := by
  unfold typedQuery
  rw [same.documentName]

private theorem childItems_sameAbove (same : layout.SameAbove layout') (levels : List UnnestLevel)
    (columns : List Column) : childItems layout' levels columns = childItems layout levels columns := by
  unfold childItems
  rw [same.documentName]

private theorem overLevels_sameAbove (same : layout.SameAbove layout') (spelling : Spelling)
    (snapshot : String) (items : List Item) (levels : List UnnestLevel) :
    overLevels spelling snapshot layout' items levels =
      overLevels spelling snapshot layout items levels := by
  induction levels generalizing items with
  | nil => rfl
  | cons level outer ih =>
    rw [overLevels, overLevels, ih, levelItems, levelItems, same.documentName]

theorem childQuery_sameAbove (same : layout.SameAbove layout') (d : Dialect) (snapshot : String)
    (levels : List UnnestLevel) (columns : List Column) :
    childQuery d snapshot layout' levels columns = childQuery d snapshot layout levels columns := by
  cases levels with
  | nil => rfl
  | cons level rest =>
    unfold childQuery
    simp only [childItems_sameAbove same, overLevels_sameAbove same]

end Sql

namespace ChildSite

variable {site : ChildSite} {layout : ChangelogLayout}

private theorem nodeFlat_sameAbove (same : site.layout.SameAbove layout) (source : String)
    (n : ArrayNode) :
    ({ site with layout := layout } : ChildSite).nodeFlat source n = site.nodeFlat source n := by
  unfold nodeFlat nodeReserved
  rw [same.documentName]
  rfl

theorem nodeView_sameAbove (site : ChildSite) (same : site.layout.SameAbove layout) (source : String)
    (n : ArrayNode) :
    ({ site with layout := layout } : ChildSite).nodeView source n = site.nodeView source n := by
  have written : ∀ columns, ({ site with layout := layout } : ChildSite).nodeQuery source n columns =
      site.nodeQuery source n columns := by
    intro columns
    unfold nodeQuery
    rw [Sql.childQuery_sameAbove same]
    rfl
  unfold nodeView
  simp only [nodeFlat_sameAbove same, written]

end ChildSite

namespace Target

variable {t : Target} {layout : ChangelogLayout}

private theorem topFlat_sameAbove (same : t.layout.SameAbove layout) (spelling : Sql.Spelling)
    (schema : Schema) : topFlat { t with layout := layout } spelling schema = t.topFlat spelling schema := by
  unfold topFlat
  rw [same.documentName, same.data]

private theorem arrayViews_sameAbove (same : t.layout.SameAbove layout) (spelling : Sql.Spelling)
    (dataset first name : String) (schema : Schema) :
    arrayViews { t with layout := layout } spelling dataset first name schema =
      t.arrayViews spelling dataset first name schema := by
  unfold arrayViews
  rw [same.data]
  refine congrArg (schema.arrayNodes.mapM ·) (funext fun n => ?_)
  exact (t.childSite spelling dataset first name).nodeView_sameAbove same _ n

private theorem withoutRepeats_sameAbove {views views' : SchemaViews} (same : views.SameAbove views') :
    Alike Eq SchemaViews.SameAbove (withoutRepeats views) (withoutRepeats views') := by
  have names : views'.all.map View.name = views.all.map View.name := by
    simp only [SchemaViews.all, List.map_cons, same.top, same.children, same.snapshotName]
  unfold withoutRepeats
  rw [names]
  cases firstRepeated [] (views.all.map View.name) with
  | some view => exact .error rfl
  | none => exact .ok same

private theorem layOut_sameAbove (same : t.layout.SameAbove layout) (dataset : String)
    (first schemaName : Option String) (schema : Schema) (changelog changelog' : Option String) :
    Alike Eq SchemaViews.SameAbove (t.layOut dataset first schemaName schema changelog)
      (layOut { t with layout := layout } dataset first schemaName schema changelog') := by
  rw [layOut_eq, layOut_eq]
  refine (Alike.refl (orStop (properNames first schemaName))).bind ?_
  rintro names _ rfl
  refine (Alike.refl (orSqlStop t.dialect.spelled)).bind ?_
  rintro spelling _ rfl
  rw [topFlat_sameAbove same, arrayViews_sameAbove same]
  refine (Alike.refl (orStop (t.topFlat spelling schema))).bind ?_
  rintro flat _ rfl
  refine (Alike.refl (t.arrayViews spelling dataset names.1 names.2 schema)).bind ?_
  rintro children _ rfl
  refine withoutRepeats_sameAbove ⟨rfl, ?_, rfl, rfl, rfl⟩
  simp only [assembled, Sql.typedQuery_sameAbove same]

/-- The snapshot of a schema is that of its name, over the table that it is taken from. -/
theorem snapshot_of_compile {dataset : String} {first schemaName changelog : Option String}
    {schema : Schema} {views : SchemaViews}
    (done : t.compile dataset first schemaName schema changelog = .ok views) :
    ∃ firstName spelling, first = some firstName ∧ t.dialect.spelled = .ok spelling ∧
      views.snapshot = .of spelling (Names.snapshot first schemaName)
        (Sql.snapshotQuery spelling
          (spelling.tableRef t.project dataset (changelogTable firstName changelog)) t.layout) [] := by
  obtain ⟨names, spelling, _, proper, spelled, _, _, laid, _⟩ := layOut_ok (compile_ok done)
  obtain ⟨rfl, rfl⟩ := properNames_ok proper
  exact ⟨names.1, spelling, rfl, spelled, congrArg SchemaViews.snapshot laid⟩

/-- Another table, and another layout that agrees on what is read above the snapshot, change neither the
outcome nor any view but the snapshot. Other fields do not change the snapshot. -/
theorem layers_apart (t : Target) {layout : ChangelogLayout} (same : t.layout.SameAbove layout)
    (dataset : String) (first schemaName : Option String) (schema : Schema)
    (changelog changelog' : Option String) :
    Alike Eq SchemaViews.SameAbove (t.compile dataset first schemaName schema changelog)
        (compile { t with layout := layout } dataset first schemaName schema changelog') ∧
      ∀ schema' views views', t.compile dataset first schemaName schema changelog = .ok views →
        t.compile dataset first schemaName schema' changelog = .ok views' →
          views'.snapshot = views.snapshot := by
  constructor
  · have laid := layOut_sameAbove same dataset first schemaName schema changelog changelog'
    unfold compile
    revert laid
    generalize t.layOut dataset first schemaName schema changelog = one,
      layOut _ dataset first schemaName schema changelog' = two
    intro laid
    cases laid with
    | ok same => exact .ok same
    | @error failure _ same =>
      subst same
      cases failure with
      | views e => exact .error rfl
      | _ => exact .error rfl
  · intro schema' views views' done done'
    obtain ⟨_, _, rfl, spelled, snapshot⟩ := snapshot_of_compile done
    obtain ⟨_, _, named, spelled', snapshot'⟩ := snapshot_of_compile done'
    cases named
    cases spelled.symm.trans spelled'
    rw [snapshot, snapshot']

/-- Parcels with an array of stops, each of them with an array of marks. -/
def parcels : Schema :=
  let stop := [Field.ofKind (.ofString "place") .geopoint, Field.ofKind (.ofString "marks") .array]
  ⟨[Field.ofKind (.ofString "weight") .number,
    { Field.ofKind (.ofString "stops") .array with fields := some stop }]⟩

/-- A changelog without document ids, where writes are ordered and deletions marked in a way of its
own. -/
def numberedLayout : ChangelogLayout :=
  { ChangelogLayout.standard with
    documentId := none, timestamp := "at", sequence := "number", operation := "kind",
    deleteOperation := "GONE" }

theorem parcels_layered :
    ChangelogLayout.standard.SameAbove numberedLayout ∧
    ∃ views views' empty,
      compile ⟨Sql.DuckDb.dialect, "p", .standard⟩ "d" (some "f") (some "s") parcels none =
        .ok views ∧
      compile ⟨Sql.DuckDb.dialect, "p", numberedLayout⟩ "d" (some "f") (some "s") parcels
        (some "numbered") = .ok views' ∧
      compile ⟨Sql.DuckDb.dialect, "p", .standard⟩ "d" (some "f") (some "s") ⟨[]⟩ none = .ok empty ∧
      views.SameAbove views' ∧ empty.snapshot = views.snapshot ∧ views'.snapshot ≠ views.snapshot ∧
      views'.children.map View.name = ["f_schema_s_latest_stops", "f_schema_s_latest_stops_marks"] := by
  have same : ChangelogLayout.standard.SameAbove numberedLayout := ⟨rfl, rfl⟩
  have compiled : ∃ views,
      compile ⟨Sql.DuckDb.dialect, "p", .standard⟩ "d" (some "f") (some "s") parcels none =
        .ok views ∧
      views.snapshot.query.outputs = ["document_name", "document_id", "timestamp", "event_id",
        "operation", "data"] ∧
      views.children.map View.name =
        ["f_schema_s_latest_stops", "f_schema_s_latest_stops_marks"] := by
    unfold compile
    rw [layOut_eq]
    exact ⟨_, rfl, by decide, by decide⟩
  have numbered : ∃ views',
      compile ⟨Sql.DuckDb.dialect, "p", numberedLayout⟩ "d" (some "f") (some "s") parcels
        (some "numbered") = .ok views' ∧
      views'.snapshot.query.outputs = ["document_name", "at", "number", "kind", "data"] := by
    unfold compile
    rw [layOut_eq]
    exact ⟨_, rfl, by decide⟩
  have bare : ∃ empty,
      compile ⟨Sql.DuckDb.dialect, "p", .standard⟩ "d" (some "f") (some "s") ⟨[]⟩ none =
        .ok empty := by
    unfold compile
    rw [layOut_eq]
    exact ⟨_, rfl⟩
  obtain ⟨views, done, outputs, names⟩ := compiled
  obtain ⟨views', done', outputs'⟩ := numbered
  obtain ⟨empty, noFields⟩ := bare
  obtain ⟨alike, snapshots⟩ := layers_apart ⟨Sql.DuckDb.dialect, "p", .standard⟩ same "d" (some "f")
    (some "s") parcels none (some "numbered")
  rw [done, done'] at alike
  cases alike with
  | ok above =>
    refine ⟨same, views, views', empty, done, done', noFields, above, ?_, ?_, ?_⟩
    · exact snapshots ⟨[]⟩ views empty done noFields
    · intro unchanged
      rw [unchanged, outputs] at outputs'
      exact absurd outputs' (by decide)
    · rw [above.children]
      exact names

end Target
end ChangelogViews
