import ChangelogViews.Proofs.Views.Labels
import ChangelogViews.Proofs.Views.Parity
import ChangelogViews.Proofs.Views.Unnesting

/-!
# Output columns

The output columns of a typed view have names of their own: the name of the document, the ordinals in the
arrays around an element, and the columns of fields (`outputs_unambiguous`). The name of the document is the
exception, since a layout may give it the alias that ordinals in some array go by
(`positions_as_documentName`).
-/

namespace ChangelogViews

theorem labelsIn_eq {d : Sql.Dialect} (regular : d.Regular) (places : List FieldPlace) :
    labelsIn d places = labelsOf places := by
  rw [labelsOf, labelsIn, List.map_flatMap]
  congr 1
  funext p
  rw [FieldPlace.columnNames, ← FieldPlace.rules_suffixes regular, List.map_map, List.map_map]
  rfl

/-- The ordinals in the arrays around an element go by aliases of their own. -/
theorem nodup_indices {schema : Schema} {n : ArrayNode} (listed : n ∈ schema.arrayNodes) :
    n.indices.Nodup :=
  (List.nodup_append.mp (growing_of_arrayNodes n listed).2.apart).2.1

/-- Where aliases are free that is said of the reserved names as well. -/
theorem Free.behind_reserved {reserved labels : List String}
    (free : Free (reservedLabels reserved) labels) (apart : reserved.Nodup) :
    (reserved ++ labels).Nodup := by
  refine List.nodup_append.mpr ⟨apart, free.apart, ?_⟩
  intro name inside label among same
  refine free.unused label among ?_
  rw [reservedLabels, List.map_map]
  exact List.mem_map.mpr ⟨name, inside, same⟩

/-- The view of an array puts out the name of the document, the ordinals in the arrays from the outermost on,
and its columns. No two of these names are equal, unless that of the document is one of the ordinals. -/
structure ArrayNode.PutsOut (documentName : String) (n : ArrayNode) (outputs : List String) : Prop where
  names : ∃ labels, outputs = documentName :: (n.indices ++ labels) ∧ (n.indices ++ labels).Nodup ∧
    documentName ∉ labels
  clear : outputs.Nodup ↔ documentName ∉ n.indices

private theorem putsOut_of_free {documentName : String} {schema : Schema} {n : ArrayNode}
    {labels : List String} (listed : n ∈ schema.arrayNodes)
    (free : Free (reservedLabels (documentName :: n.indices)) labels) :
    n.PutsOut documentName (documentName :: (n.indices ++ labels)) := by
  have own : documentName ∉ labels := by
    intro inside
    exact free.unused documentName inside List.mem_cons_self
  have rest : Free (reservedLabels n.indices) labels :=
    ⟨free.apart, fun label inside used => free.unused label inside (List.mem_cons_of_mem _ used)⟩
  have behind := rest.behind_reserved (nodup_indices listed)
  refine ⟨⟨labels, rfl, behind, own⟩, ?_⟩
  rw [List.nodup_cons, List.mem_append]
  exact ⟨fun apart position => apart.1 (.inl position),
    fun other => ⟨fun either => either.elim other own, behind⟩⟩

namespace ChildSite

/-- The view of an array node in a regular dialect puts out names of their own. -/
theorem putsOut_of_nodeView {site : ChildSite} (regular : site.dialect.Regular) {source : String}
    {schema : Schema} {n : ArrayNode} (listed : n ∈ schema.arrayNodes) {view : View}
    (made : site.nodeView source n = .ok view) :
    n.PutsOut site.layout.documentName view.query.outputs := by
  have outputs : view.query.outputs =
      site.layout.documentName :: (n.indices ++ labelsOf n.places) := by
    have alike := site.nodeView_alike site regular regular rfl rfl rfl source source n
    rw [made] at alike
    cases alike with
    | ok related => exact congrArg Outline.outputs related.1
  obtain ⟨passed, _⟩ := nodeView_ok made
  have free := (walk_ok_iff.mp passed).2
  rw [nodeReserved, insideNode_indices, labelsIn_eq regular] at free
  rw [outputs]
  exact putsOut_of_free listed free

end ChildSite

namespace Target

/-- The top view of a schema that compiles puts out no name twice. The view of an array does so only
where the name of the document is also that of a position. -/
theorem outputs_unambiguous {t : Target} (shipped : t.dialect ∈ Sql.dialects) {dataset : String}
    {first schemaName : Option String} {schema : Schema} {changelog : Option String}
    {views : SchemaViews} (done : t.compile dataset first schemaName schema changelog = .ok views) :
    views.top.query.outputs =
        t.layout.documentName :: labelsOf (placesIn [] [] [] [] schema.fields) ∧
      views.top.query.outputs.Nodup ∧
      List.Forall₂ (fun n view => n.PutsOut t.layout.documentName view.query.outputs)
        schema.arrayNodes views.children := by
  have regular := Sql.Dialect.regular_of_mem shipped
  obtain ⟨names, spelling, flat, _, _, passed, arrays, laid, _⟩ := layOut_ok (compile_ok done)
  rw [topFlat_eq_walk] at passed
  have columns := labels_of_names (names_of_walk regular passed)
  have free := (walk_ok_iff.mp ⟨flat, passed⟩).2.behind_reserved (List.pairwise_singleton _ _)
  rw [labelsIn_eq regular] at free
  have outputs : views.top.query.outputs =
      t.layout.documentName :: labelsOf (placesIn [] [] [] [] schema.fields) := by
    rw [laid, ← columns]
    refine congrArg (List.cons _) ?_
    rw [Sql.columnItems, List.map_map]
    rfl
  refine ⟨outputs, ?_, ?_⟩
  · rw [outputs]
    exact free
  · exact forall₂_of_mapM_ok
      (fun n listed view made => ChildSite.putsOut_of_nodeView regular listed made) arrays

/-- An array of maps that hold a geopoint and another array, beside a map. -/
def visits : Schema :=
  let stops := { Field.ofKind (.ofString "visits") .array with
    fields := some [Field.ofKind (.ofString "at") .geopoint, Field.ofKind (.ofString "tags") .array] }
  ⟨[stops, { Field.ofKind (.ofString "who") .map with
    fields := some [Field.ofKind (.ofString "name") .string] }]⟩

theorem visits_unambiguous :
    Sql.BigQuery.dialect ∈ Sql.dialects ∧
    ∃ views, compile ⟨Sql.BigQuery.dialect, "p", .standard⟩ "d" (some "f") (some "s") visits none =
        .ok views ∧
      views.top.query.outputs = ["document_name", "who_name"] ∧
      ∀ view ∈ views.children, view.query.outputs.Nodup := by
  have shipped : Sql.BigQuery.dialect ∈ Sql.dialects := by simp [Sql.dialects]
  have compiled : ∃ views, compile ⟨Sql.BigQuery.dialect, "p", .standard⟩ "d" (some "f") (some "s")
      visits none = .ok views := by
    unfold compile
    rw [layOut_eq]
    exact ⟨_, rfl⟩
  obtain ⟨views, done⟩ := compiled
  obtain ⟨top, _, children⟩ := outputs_unambiguous (t := ⟨Sql.BigQuery.dialect, "p", .standard⟩)
    shipped done
  refine ⟨shipped, views, done, top.trans (by decide), ?_⟩
  have clear : ∀ n ∈ visits.arrayNodes, "document_name" ∉ n.indices := by decide
  intro view among
  obtain ⟨i, inside, rfl⟩ := List.getElem_of_mem among
  have puts := children.get (children.length_eq ▸ inside) inside
  exact puts.clear.mpr (clear _ (List.get_mem _ _))

/-- A layout that names documents by the alias of the ordinals in an array `a`. -/
def positionLayout : ChangelogLayout := { ChangelogLayout.standard with documentName := "a_index" }

/-- A schema with a single array `a`. -/
def singleArray : Schema := ⟨[Field.ofKind (.ofString "a") .array]⟩

/-- The view of an array has two columns of one name where documents are named by its ordinals. -/
theorem positions_as_documentName :
    ∃ views, compile ⟨Sql.DuckDb.dialect, "p", positionLayout⟩ "d" (some "f") (some "s") singleArray
        none = .ok views ∧
      ∃ view ∈ views.children, view.query.outputs = ["a_index", "a_index", "a"] ∧
        ¬ view.query.outputs.Nodup := by
  have compiled : ∃ views, compile ⟨Sql.DuckDb.dialect, "p", positionLayout⟩ "d" (some "f") (some "s")
      singleArray none = .ok views ∧
      views.children.map (·.query.outputs) = [["a_index", "a_index", "a"]] := by
    unfold compile
    rw [layOut_eq]
    exact ⟨_, rfl, rfl⟩
  obtain ⟨views, done, outputs⟩ := compiled
  have inside : ["a_index", "a_index", "a"] ∈ views.children.map (·.query.outputs) := by
    rw [outputs]
    exact List.mem_singleton.mpr rfl
  obtain ⟨view, among, same⟩ := List.mem_map.mp inside
  refine ⟨views, done, view, among, same, ?_⟩
  rw [same]
  decide

end Target
end ChangelogViews
