import ChangelogViews.Proofs.Sql.Regular
import ChangelogViews.Proofs.Views.LaidOut

/-!
# Parity of dialects

Regular dialects compile the same views. A walk meets the same aliases in each of them, so it ends at the
same place or passes all places with the same columns (`walk_alike`), and what is compiled around the
columns does not ask for the dialect (`compile_alike`). Only expressions, SQL types and texts differ.
-/

namespace ChangelogViews

namespace FieldPlace

/-- The name and the alias of each column that a place gives in any regular dialect. -/
def columnNames (p : FieldPlace) : List (String × String) :=
  (TypeSubject.ofType p.field.type).suffixes.map fun suffix =>
    (dotted (p.path ++ suffix), joined (p.path ++ suffix))

section
variable {d d' : Sql.Dialect} {p : FieldPlace} {cause : Cause} {suffix : List String}

theorem rules_suffixes (regular : d.Regular) :
    (p.rules d).map Sql.ColumnRule.suffix = (TypeSubject.ofType p.field.type).suffixes := by
  have alike := regular.resolve_alike regular (.ofType p.field.type)
  unfold rules
  cases resolved : d.resolve (.ofType p.field.type) with
  | ok found =>
    rw [resolved] at alike
    cases alike with
    | ok related => exact related.1
  | error e =>
    rw [resolved] at alike
    cases alike with
    | error related => exact related.2.symm

/-- What one regular dialect finds sound every other one does. -/
theorem Sound.in_other (regular : d.Regular) (other : d'.Regular) (sound : p.Sound d) :
    p.Sound d' := by
  refine ⟨sound.named, sound.map, sound.array, ?_⟩
  intro noMap noArray
  obtain ⟨fields, element, resolved⟩ := sound.plain noMap noArray
  refine ⟨fields, element, ?_⟩
  have alike := regular.resolve_alike other (.ofType p.field.type)
  unfold rules
  cases found : d'.resolve (.ofType p.field.type) with
  | ok rules => rfl
  | error e =>
    rw [resolved, found] at alike
    cases alike

theorem Flaw.in_other (regular : d.Regular) (other : d'.Regular) (flaw : p.Flaw d cause) :
    ∃ cause', p.Flaw d' cause' ∧ SameCause d d' cause cause' := by
  cases flaw with
  | repeated twice => exact ⟨_, .repeated twice, .same _⟩
  | misnamed once bad => exact ⟨_, .misnamed once bad, .same _⟩
  | mapWithElement named type element => exact ⟨_, .mapWithElement named type element, .same _⟩
  | arrayWithBoth named type element fields =>
    exact ⟨_, .arrayWithBoth named type element fields, .same _⟩
  | nestedBelow named noMap noArray below =>
    exact ⟨_, .nestedBelow named noMap noArray below, .same _⟩
  | @unresolved named noMap noArray fields element e refused =>
    have alike := regular.resolve_alike other (.ofType p.field.type)
    cases found : d'.resolve (.ofType p.field.type) with
    | ok rules =>
      rw [refused, found] at alike
      cases alike
    | error e' =>
      rw [refused, found] at alike
      cases alike with
      | error related =>
        exact ⟨_, .unresolved named noMap noArray fields element found, related.1.cause⟩

private theorem labelOf_suffix {rule rule' : Sql.ColumnRule} (same : rule.suffix = rule'.suffix) :
    p.labelOf rule = p.labelOf rule' := by
  unfold labelOf
  rw [same]

/-- Whether a column clashes depends on suffixes alone. -/
theorem FirstClash.of_suffixes {taken : List TakenLabel} {rules rules' : List Sql.ColumnRule}
    {problem : Malformation}
    (same : rules.map Sql.ColumnRule.suffix = rules'.map Sql.ColumnRule.suffix)
    (first : p.FirstClash taken rules problem suffix) : p.FirstClash taken rules' problem suffix := by
  induction first generalizing rules' with
  | @here taken rule rest problem inUse =>
    cases rules' with
    | nil => cases same
    | cons rule' rest' =>
      obtain ⟨own, _⟩ := List.cons.inj same
      rw [labelOf_suffix own] at inUse
      rw [own]
      exact .here inUse
  | @later taken rule rest problem suffix free behind ih =>
    cases rules' with
    | nil => cases same
    | cons rule' rest' =>
      obtain ⟨own, others⟩ := List.cons.inj same
      have next := ih others
      rw [labelOf_suffix own] at free next
      exact .later free next

theorem Fault.in_other {taken : List TakenLabel} (regular : d.Regular) (other : d'.Regular)
    (fault : p.Fault d taken cause suffix) :
    ∃ cause', p.Fault d' taken cause' suffix ∧ SameCause d d' cause cause' := by
  cases fault with
  | flaw flaw =>
    obtain ⟨cause', flaw', same⟩ := flaw.in_other regular other
    exact ⟨cause', .flaw flaw', same⟩
  | clash sound clash =>
    have suffixes := (rules_suffixes (p := p) regular).trans (rules_suffixes other).symm
    exact ⟨_, .clash (sound.in_other regular other) (clash.of_suffixes suffixes), .same _⟩

private theorem takenBehind_eq (regular : d.Regular) (taken : List TakenLabel) :
    p.takenBehind d taken = (TypeSubject.ofType p.field.type).suffixes.foldl
      (fun taken suffix => ⟨joined (p.path ++ suffix), some (dotted (p.path ++ suffix))⟩ :: taken)
      taken := by
  rw [← rules_suffixes regular, List.foldl_map]
  rfl

theorem takenBehind_other (regular : d.Regular) (other : d'.Regular) (taken : List TakenLabel) :
    p.takenBehind d taken = p.takenBehind d' taken := by
  rw [takenBehind_eq regular, takenBehind_eq other]

end

end FieldPlace

/-- The first place at fault is the same in every regular dialect. -/
theorem FirstFault.in_other {d d' : Sql.Dialect} (regular : d.Regular) (other : d'.Regular)
    {taken : List TakenLabel} {places : List FieldPlace} {p : FieldPlace} {cause : Cause}
    {suffix : List String} (first : FirstFault d taken places p cause suffix) :
    ∃ cause', FirstFault d' taken places p cause' suffix ∧ SameCause d d' cause cause' := by
  induction first with
  | here fault =>
    obtain ⟨cause', fault', same⟩ := fault.in_other regular other
    exact ⟨cause', .here fault', same⟩
  | later fine behind ih =>
    obtain ⟨cause', behind', same⟩ := ih
    rw [FieldPlace.takenBehind_other regular other] at behind'
    refine ⟨cause', .later ?_ behind', same⟩
    intro cause suffix fault
    obtain ⟨back, fault', _⟩ := fault.in_other other regular
    exact fine back suffix fault'

/-! ### Walks in two dialects -/

/-- The name and the alias of a column. -/
def Column.names (column : Column) : String × String := (column.name, column.label)

theorem names_of_walk {d : Sql.Dialect} (regular : d.Regular) {source : String}
    {places : List FieldPlace} {taken : List TakenLabel} {flat : Flat}
    (passed : takeSteps taken (walk d source places) = .ok flat) :
    flat.columns.map Column.names = places.flatMap FieldPlace.columnNames := by
  rw [(sound_of_walk passed).2, List.map_flatMap]
  congr 1
  funext p
  rw [FieldPlace.columnNames, ← FieldPlace.rules_suffixes regular, List.map_map, List.map_map]
  rfl

theorem walk_alike {d d' : Sql.Dialect} (regular : d.Regular) (other : d'.Regular)
    (source source' : String) (places : List FieldPlace) (taken : List TakenLabel) :
    Alike (SameError d d') (fun flat flat' =>
        flat.columns.map Column.names = places.flatMap FieldPlace.columnNames ∧
        flat'.columns.map Column.names = places.flatMap FieldPlace.columnNames)
      (takeSteps taken (walk d source places)) (takeSteps taken (walk d' source' places)) := by
  cases one : takeSteps taken (walk d source places) with
  | error e =>
    obtain ⟨p, cause, suffix, first, rfl⟩ := takeSteps_walk_error_iff.mp one
    obtain ⟨cause', first', same⟩ := first.in_other regular other
    rw [takeSteps_walk_error_iff.mpr ⟨p, cause', suffix, first', rfl⟩]
    exact .error ⟨same, rfl⟩
  | ok flat =>
    cases two : takeSteps taken (walk d' source' places) with
    | ok flat' => exact .ok ⟨names_of_walk regular one, names_of_walk other two⟩
    | error e =>
      obtain ⟨p, cause, suffix, first, _⟩ := takeSteps_walk_error_iff.mp two
      obtain ⟨cause', first', _⟩ := first.in_other other regular
      rw [takeSteps_walk_error_iff.mpr ⟨p, cause', suffix, first', rfl⟩] at one
      cases one

/-- A list of fields gives the same columns in every regular dialect. -/
theorem flatten_alike {d d' : Sql.Dialect} (regular : d.Regular) (other : d'.Regular)
    (source source' : String) (path reserved : List String) (fields : List Field) :
    Alike (SameError d d') (fun flat flat' =>
        flat.columns.map Column.names = flat'.columns.map Column.names)
      (flatten d source path reserved fields) (flatten d' source' path reserved fields) := by
  rw [flatten_eq_walk d source [], flatten_eq_walk d' source' []]
  exact (walk_alike regular other source source' _ _).imp fun _ _ both => both.1.trans both.2.symm

/-- So does the element of an array. -/
theorem childFlatten_alike {d d' : Sql.Dialect} (regular : d.Regular) (other : d'.Regular)
    (source source' : String) (reserved : List String) (child : ChildSchema) :
    Alike (SameError d d') (fun flat flat' =>
        flat.columns.map Column.names = flat'.columns.map Column.names)
      (child.flatten d source reserved) (child.flatten d' source' reserved) := by
  obtain ⟨path, jsonPath, content⟩ := child
  cases content with
  | members fields => exact flatten_alike regular other source source' [] reserved fields
  | atRoot element =>
    unfold ChildSchema.flatten
    simp only [elementSteps_eq_walk []]
    exact (walk_alike regular other source source' _ _).imp fun _ _ both => both.1.trans both.2.symm

/-- What a view shows of itself in any dialect: its name, the views that it reads, and the names of
its output columns. -/
structure Outline where
  name : String
  reads : List String
  outputs : List String
  deriving DecidableEq, Repr

def View.outline (view : View) : Outline := ⟨view.name, view.dependsOn, view.query.outputs⟩

/-- The aliases of the columns that some places give. -/
def labelsOf (places : List FieldPlace) : List String :=
  (places.flatMap FieldPlace.columnNames).map Prod.snd

theorem mem_labelsOf {places : List FieldPlace} {label : String} : label ∈ labelsOf places ↔
    ∃ p ∈ places, ∃ suffix ∈ (TypeSubject.ofType p.field.type).suffixes,
      label = joined (p.path ++ suffix) := by
  rw [labelsOf, List.map_flatMap, List.mem_flatMap]
  simp only [FieldPlace.columnNames, List.map_map, List.mem_map, Function.comp_apply, eq_comm]

/-- The view of an array: the name of the document, the ordinals in the arrays from the outermost on, and the
columns of an element. -/
def ArrayNode.outline (documentName top snapshot : String) (n : ArrayNode) : Outline :=
  ⟨s!"{top}_{joined n.site.keyPath}", [snapshot], documentName :: n.indices ++ labelsOf n.places⟩

/-- The views of a schema: the snapshot, the top view, and one for each array. -/
def Schema.outlines (layout : ChangelogLayout) (first schemaName : Option String) (schema : Schema) :
    List Outline :=
  let snapshot := Names.snapshot first schemaName
  let top := Names.top first schemaName
  ⟨snapshot, [], layout.snapshotColumns⟩ ::
    ⟨top, [snapshot], layout.documentName :: labelsOf (placesIn [] [] [] [] schema.fields)⟩ ::
      schema.arrayNodes.map (ArrayNode.outline layout.documentName top snapshot)

/-- Both stop for the same error of the family. -/
inductive SameStop (d d' : Sql.Dialect) : Failure → Failure → Prop
  | views {e e' : ViewError} (same : SameError d d' e e') : SameStop d d' (.views e) (.views e')

theorem labels_of_names {columns : List Column} {places : List FieldPlace}
    (names : columns.map Column.names = places.flatMap FieldPlace.columnNames) :
    columns.map Column.label = labelsOf places := by
  rw [labelsOf, ← names, List.map_map]
  rfl

namespace ChildSite

/-- In a regular dialect an array whose columns are known has a view. -/
theorem nodeQuery_outline {site : ChildSite} (regular : site.dialect.Regular) (source : String)
    (n : ArrayNode) {columns : List Column}
    (names : columns.map Column.names = n.places.flatMap FieldPlace.columnNames) :
    ∃ view, site.nodeQuery source n columns = .ok view ∧
      view.outline = n.outline site.layout.documentName site.top site.snapshot := by
  have deep : (site.insideNode source n).levels ≠ [] := by
    rw [insideNode_eq]
    exact List.append_ne_nil_of_right_ne_nil _ (List.cons_ne_nil _ _)
  obtain ⟨query, written, outputs⟩ :=
    regular.childQuery_outputs site.snapshotRef site.layout deep columns
  unfold nodeQuery
  rw [written]
  refine ⟨_, rfl, ?_⟩
  rw [insideNode_indices, labels_of_names names] at outputs
  unfold View.outline ArrayNode.outline
  rw [← outputs]
  rfl

theorem nodeView_alike (site site' : ChildSite) (regular : site.dialect.Regular)
    (other : site'.dialect.Regular) (layout : site'.layout = site.layout)
    (top : site'.top = site.top) (snapshot : site'.snapshot = site.snapshot)
    (source source' : String) (n : ArrayNode) :
    Alike (SameStop site.dialect site'.dialect) (fun view view' =>
        view.outline = n.outline site.layout.documentName site.top site.snapshot ∧
        view'.outline = n.outline site.layout.documentName site.top site.snapshot)
      (site.nodeView source n) (site'.nodeView source' n) := by
  unfold nodeView nodeFlat nodeReserved
  rw [insideNode_indices, insideNode_indices, layout]
  have walked := walk_alike regular other (site.insideNode source n).source
    (site'.insideNode source' n).source n.places
    (reservedLabels (site.layout.documentName :: n.indices))
  revert walked
  generalize takeSteps _ _ = one, takeSteps _ _ = two
  intro walked
  cases walked with
  | error same =>
    refine .error (.views ⟨same.cause, ?_⟩)
    simp only [anchored, same.context]
  | ok related =>
    obtain ⟨view, made, outline⟩ := nodeQuery_outline regular source n related.1
    obtain ⟨view', made', outline'⟩ := nodeQuery_outline other source' n related.2
    simp only [made, made']
    rw [layout, top, snapshot] at outline'
    exact .ok ⟨outline, outline'⟩

end ChildSite

/-! ### Schemas in two dialects -/

namespace Target

private theorem withoutRepeats_alike {d d' : Sql.Dialect} {views views' : SchemaViews}
    {outlines : List Outline} (one : views.all.map View.outline = outlines)
    (two : views'.all.map View.outline = outlines) :
    Alike (SameStop d d') (fun a b => a.all.map View.outline = outlines ∧
        b.all.map View.outline = outlines)
      (withoutRepeats views) (withoutRepeats views') := by
  have names : views'.all.map View.name = views.all.map View.name := by
    have same := congrArg (List.map Outline.name) (two.trans one.symm)
    rw [List.map_map, List.map_map] at same
    exact same
  unfold withoutRepeats
  rw [names]
  cases firstRepeated [] (views.all.map View.name) with
  | some view => exact .error (.views (.refl d d' _))
  | none => exact .ok ⟨one, two⟩

private theorem assembled_outlines (t : Target) (spelling : Sql.Spelling)
    (dataset first name : String) (changelog : Option String) {schema : Schema}
    {columns : List Column} {children : List View}
    (names : columns.map Column.names =
      (placesIn [] [] [] [] schema.fields).flatMap FieldPlace.columnNames)
    (arrays : children.map View.outline = schema.arrayNodes.map
      (ArrayNode.outline t.layout.documentName (Names.top (some first) (some name))
        (Names.snapshot (some first) (some name)))) :
    (t.assembled spelling dataset first name changelog columns children).all.map View.outline =
      schema.outlines t.layout (some first) (some name) := by
  have columnsOf : ∀ names : List String, (names.map Sql.Item.column).map Sql.Item.name = names := by
    intro names
    rw [List.map_map]
    exact List.map_id _
  have snapshot : (t.assembled spelling dataset first name changelog columns children).snapshot.outline =
      ⟨Names.snapshot (some first) (some name), [], t.layout.snapshotColumns⟩ := by
    rw [View.outline, Outline.mk.injEq]
    exact ⟨rfl, rfl, columnsOf t.layout.snapshotColumns⟩
  have top : (t.assembled spelling dataset first name changelog columns children).top.outline =
      ⟨Names.top (some first) (some name), [Names.snapshot (some first) (some name)],
        t.layout.documentName :: labelsOf (placesIn [] [] [] [] schema.fields)⟩ := by
    rw [View.outline, Outline.mk.injEq, ← labels_of_names names]
    refine ⟨rfl, rfl, congrArg (List.cons _) ?_⟩
    rw [Sql.columnItems, List.map_map]
    rfl
  rw [SchemaViews.all, List.map_cons, List.map_cons, snapshot, top]
  exact congrArg (_ :: _ :: ·) arrays

private theorem topFlat_alike {d d' : Sql.Dialect} (regular : d.Regular) (other : d'.Regular)
    (project : String) (layout : ChangelogLayout) (spelling spelling' : Sql.Spelling)
    (schema : Schema) :
    Alike (SameStop d d') (fun flat flat' =>
        flat.columns.map Column.names =
          (placesIn [] [] [] [] schema.fields).flatMap FieldPlace.columnNames ∧
        flat'.columns.map Column.names =
          (placesIn [] [] [] [] schema.fields).flatMap FieldPlace.columnNames)
      (orStop (topFlat ⟨d, project, layout⟩ spelling schema))
      (orStop (topFlat ⟨d', project, layout⟩ spelling' schema)) := by
  unfold topFlat
  rw [flatten_eq_walk, flatten_eq_walk]
  have walked := walk_alike regular other (spelling.quote layout.data) (spelling'.quote layout.data)
    (placesIn [] [] [] [] schema.fields) (reservedLabels [layout.documentName])
  revert walked
  generalize takeSteps _ _ = one, takeSteps _ _ = two
  intro walked
  cases walked with
  | error same => exact .error (.views same)
  | ok related => exact .ok related

private theorem arrayViews_alike {d d' : Sql.Dialect} (regular : d.Regular) (other : d'.Regular)
    (project : String) (layout : ChangelogLayout) (spelling spelling' : Sql.Spelling)
    (dataset first name : String) (schema : Schema) :
    Alike (SameStop d d') (fun children children' =>
        children.map View.outline = schema.arrayNodes.map (ArrayNode.outline layout.documentName
          (Names.top (some first) (some name)) (Names.snapshot (some first) (some name))) ∧
        children'.map View.outline = schema.arrayNodes.map (ArrayNode.outline layout.documentName
          (Names.top (some first) (some name)) (Names.snapshot (some first) (some name))))
      (arrayViews ⟨d, project, layout⟩ spelling dataset first name schema)
      (arrayViews ⟨d', project, layout⟩ spelling' dataset first name schema) := by
  apply Alike.mapM
  intro n _
  exact ChildSite.nodeView_alike (childSite ⟨d, project, layout⟩ spelling dataset first name)
    (childSite ⟨d', project, layout⟩ spelling' dataset first name) regular other rfl rfl rfl _ _ n

theorem layOut_alike {d d' : Sql.Dialect} (regular : d.Regular) (other : d'.Regular)
    (project : String) (layout : ChangelogLayout) (dataset : String)
    (first schemaName : Option String) (schema : Schema) (changelog : Option String) :
    Alike (SameStop d d') (fun views views' =>
        views.all.map View.outline = schema.outlines layout first schemaName ∧
        views'.all.map View.outline = schema.outlines layout first schemaName)
      (layOut ⟨d, project, layout⟩ dataset first schemaName schema changelog)
      (layOut ⟨d', project, layout⟩ dataset first schemaName schema changelog) := by
  obtain ⟨spelling, spelled⟩ := regular.spells
  obtain ⟨spelling', spelled'⟩ := other.spells
  have names : Alike (SameStop d d')
      (fun names names' => names = names' ∧ properNames first schemaName = .ok names)
      (orStop (properNames first schemaName)) (orStop (properNames first schemaName)) := by
    cases properNames first schemaName with
    | error e => exact .error (.views (.refl d d' e))
    | ok names => exact .ok ⟨rfl, rfl⟩
  have spellings : Alike (SameStop d d') (fun _ _ => True) (orSqlStop d.spelled)
      (orSqlStop d'.spelled) := by
    rw [spelled, spelled']
    exact .ok trivial
  rw [layOut_eq, layOut_eq]
  refine names.bind ?_
  rintro names _ ⟨rfl, proper⟩
  obtain ⟨rfl, rfl⟩ := properNames_ok proper
  refine spellings.bind ?_
  rintro spelling spelling' _
  refine (topFlat_alike regular other project layout spelling spelling' schema).bind ?_
  rintro flat flat' ⟨columns, columns'⟩
  refine (arrayViews_alike regular other project layout spelling spelling' dataset _ _ schema).bind ?_
  rintro children children' ⟨arrays, arrays'⟩
  exact withoutRepeats_alike (assembled_outlines _ _ _ _ _ _ columns arrays)
    (assembled_outlines _ _ _ _ _ _ columns' arrays')

theorem compile_alike {d d' : Sql.Dialect} (regular : d.Regular) (other : d'.Regular)
    (project : String) (layout : ChangelogLayout) (dataset : String)
    (first schemaName : Option String) (schema : Schema) (changelog : Option String) :
    Alike (SameStop d d') (fun views views' =>
        views.all.map View.outline = schema.outlines layout first schemaName ∧
        views'.all.map View.outline = schema.outlines layout first schemaName)
      (compile ⟨d, project, layout⟩ dataset first schemaName schema changelog)
      (compile ⟨d', project, layout⟩ dataset first schemaName schema changelog) := by
  have laid := layOut_alike regular other project layout dataset first schemaName schema changelog
  unfold compile
  revert laid
  generalize layOut ⟨d, _, _⟩ _ _ _ _ _ = one, layOut ⟨d', _, _⟩ _ _ _ _ _ = two
  intro laid
  cases laid with
  | ok related => exact .ok related
  | error stop =>
    cases stop with
    | views same => exact .error (.views (same.addContext _))

/-- The views of a schema in a regular dialect are those that it outlines. -/
theorem outlines_of_compile {t : Target} (regular : t.dialect.Regular) {dataset : String}
    {first schemaName : Option String} {schema : Schema} {changelog : Option String}
    {views : SchemaViews} (done : t.compile dataset first schemaName schema changelog = .ok views) :
    views.all.map View.outline = schema.outlines t.layout first schemaName := by
  have alike := compile_alike regular regular t.project t.layout dataset first schemaName schema changelog
  change Alike _ _ (t.compile dataset first schemaName schema changelog) _ at alike
  rw [done] at alike
  cases alike with
  | ok related => exact related.1

/-- A view is named as the snapshot, as the top view, or for an array. -/
theorem name_of_compile {t : Target} (regular : t.dialect.Regular) {dataset : String}
    {first schemaName : Option String} {schema : Schema} {changelog : Option String}
    {views : SchemaViews} (done : t.compile dataset first schemaName schema changelog = .ok views)
    {view : View} (among : view ∈ views.all) :
    view.name = Names.snapshot first schemaName ∨ view.name = Names.top first schemaName ∨
      ∃ n ∈ schema.arrayNodes, view.name = s!"{Names.top first schemaName}_{joined n.site.keyPath}" := by
  have outlines := congrArg (List.map Outline.name) (outlines_of_compile regular done)
  have named : view.name ∈ (schema.outlines t.layout first schemaName).map Outline.name := by
    rw [← outlines, List.map_map]
    exact List.mem_map_of_mem (f := Outline.name ∘ View.outline) among
  rw [Schema.outlines, List.map_cons, List.map_cons, List.map_map] at named
  rcases List.mem_cons.mp named with same | named
  · exact .inl same
  rcases List.mem_cons.mp named with same | named
  · exact .inr (.inl same)
  · obtain ⟨n, listed, same⟩ := List.mem_map.mp named
    exact .inr (.inr ⟨n, listed, same.symm⟩)

/-- In a regular dialect a schema fails to compile for errors of the family only. -/
theorem compile_failure {t : Target} (regular : t.dialect.Regular) {dataset : String}
    {first schemaName : Option String} {schema : Schema} {changelog : Option String} {failure : Failure}
    (failed : t.compile dataset first schemaName schema changelog = .error failure) :
    ∃ e, failure = .views e := by
  have alike := compile_alike regular regular t.project t.layout dataset first schemaName schema changelog
  change Alike _ _ (t.compile dataset first schemaName schema changelog) _ at alike
  rw [failed] at alike
  cases alike with
  | error stop =>
    cases stop with
    | views _ => exact ⟨_, rfl⟩

/-- The shipped dialects compile the same schemas, to views with the same names, reads and output
columns, and refuse the others with the same errors. The columns of a view have the same names. -/
theorem shipped_dialects_agree (project : String) (layout : ChangelogLayout) (dataset : String)
    (first schemaName : Option String) (schema : Schema) (changelog : Option String) :
    Alike (SameStop Sql.BigQuery.dialect Sql.DuckDb.dialect) (fun views views' =>
        views.all.map View.outline = schema.outlines layout first schemaName ∧
        views'.all.map View.outline = schema.outlines layout first schemaName)
      (compile ⟨Sql.BigQuery.dialect, project, layout⟩ dataset first schemaName schema changelog)
      (compile ⟨Sql.DuckDb.dialect, project, layout⟩ dataset first schemaName schema changelog) ∧
    (∀ source source' path reserved fields,
      Alike (SameError Sql.BigQuery.dialect Sql.DuckDb.dialect) (fun flat flat' =>
          flat.columns.map Column.names = flat'.columns.map Column.names)
        (flatten Sql.BigQuery.dialect source path reserved fields)
        (flatten Sql.DuckDb.dialect source' path reserved fields)) ∧
    ∀ source source' reserved (child : ChildSchema),
      Alike (SameError Sql.BigQuery.dialect Sql.DuckDb.dialect) (fun flat flat' =>
          flat.columns.map Column.names = flat'.columns.map Column.names)
        (child.flatten Sql.BigQuery.dialect source reserved)
        (child.flatten Sql.DuckDb.dialect source' reserved) := by
  have regular := Sql.Dialect.regular_of_mem (d := Sql.BigQuery.dialect) (by simp [Sql.dialects])
  have other := Sql.Dialect.regular_of_mem (d := Sql.DuckDb.dialect) (by simp [Sql.dialects])
  refine ⟨?_, ?_, ?_⟩
  · exact compile_alike regular other project layout dataset first schemaName schema changelog
  · exact fun source source' path reserved fields =>
      flatten_alike regular other source source' path reserved fields
  · exact fun source source' reserved child =>
      childFlatten_alike regular other source source' reserved child

end Target
end ChangelogViews
