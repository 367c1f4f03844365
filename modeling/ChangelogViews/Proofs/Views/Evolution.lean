import ChangelogViews.Proofs.Views.Deletion
import ChangelogViews.Proofs.Views.LaidOut
import ChangelogViews.Proofs.Views.Unnesting

/-!
# Schemas that lose a field

Deleting a field from a schema with views leaves a schema with views. Those of the arrays at the field
and below are gone, the one view with the columns of the field lacks them, and all others are the same
text in the same order (`compile_without`).
-/

namespace ChangelogViews

namespace Sql

/-- The same query with other output columns. -/
def Select.withItems (items : List Item) : Select → Select
  | .fromTable _ table clauses => .fromTable items table clauses
  | .fromQuery _ query name clauses => .fromQuery items query name clauses

theorem Select.withItems_self (query : Select) : query.withItems query.items = query := by
  cases query <;> rfl

private theorem childItems_append (layout : ChangelogLayout) (levels : List UnnestLevel)
    (a b : List Column) :
    childItems layout levels (a ++ b) = childItems layout levels a ++ columnItems b := by
  simp [childItems, columnItems]

/-- The columns of a view of array elements are the output of its query, which does not depend on them
otherwise. -/
theorem childQuery_columns {d : Dialect} {snapshot : String} {layout : ChangelogLayout}
    {levels : List UnnestLevel} {columns : List Column} {query : Select}
    (written : childQuery d snapshot layout levels columns = .ok query) :
    query.items = childItems layout levels columns ∧
      ∀ others, childQuery d snapshot layout levels others =
        .ok (query.withItems (childItems layout levels others)) := by
  cases levels with
  | nil => cases written
  | cons level rest =>
    unfold childQuery at written ⊢
    cases spelled : d.spelled with
    | error fault => rw [spelled] at written; cases written
    | ok spelling =>
      rw [spelled] at written
      cases style : d.style with
      | crossJoin =>
        rw [style] at written
        cases written
        exact ⟨rfl, fun _ => rfl⟩
      | selectList =>
        rw [style] at written
        cases written
        -- the columns stand in the outermost query, which is that of the innermost level
        cases reversed : (level :: rest).reverse with
        | nil => exact ⟨rfl, fun _ => rfl⟩
        | cons inner outer => exact ⟨rfl, fun _ => rfl⟩
      | other name =>
        rw [style] at written
        cases written

end Sql

/-- A view, and the same view without the columns `gone`: the others are put out in the same order, and
nothing else about the view changes. -/
structure View.Loses (spelling : Sql.Spelling) (gone : List Column) (view view' : View) : Prop where
  written : view = .of spelling view.name view.query view.dependsOn
  others : ∃ before after, view.query.items = before ++ Sql.columnItems gone ++ after ∧
    view' = .of spelling view.name (view.query.withItems (before ++ after)) view.dependsOn

namespace View.Loses

variable {spelling : Sql.Spelling} {view view' : View}

theorem eq_of_nil (loses : view.Loses spelling [] view') : view' = view := by
  obtain ⟨before, after, items, same⟩ := loses.others
  have all : before ++ after = view.query.items := by
    rw [items, Sql.columnItems, List.map_nil, List.append_nil]
  rw [same, all, Sql.Select.withItems_self]
  exact loses.written.symm

theorem name_eq {gone : List Column} (loses : view.Loses spelling gone view') :
    view'.name = view.name := by
  obtain ⟨_, _, _, same⟩ := loses.others
  rw [same]
  rfl

/-- A typed view with fewer columns. -/
theorem typed {columns columns' before gone after : List Column}
    (all : columns = before ++ gone ++ after) (fewer : columns' = before ++ after)
    (name snapshot : String) (layout : ChangelogLayout) (dependsOn : List String) :
    (View.of spelling name (Sql.typedQuery snapshot layout columns) dependsOn).Loses spelling gone
      (View.of spelling name (Sql.typedQuery snapshot layout columns') dependsOn) := by
  refine ⟨rfl, .column layout.documentName :: Sql.columnItems before, Sql.columnItems after, ?_, ?_⟩
  · change Sql.Item.column _ :: Sql.columnItems columns = _
    rw [all]
    simp only [Sql.columnItems, List.map_append, List.cons_append]
  · rw [fewer, List.cons_append, Sql.columnItems, Sql.columnItems, ← List.map_append]
    rfl

end View.Loses

namespace ChildSite

/-- Where the view of an array loses some places it loses their columns. -/
theorem loses_of_nodeView {site : ChildSite} {source : String} {gone : List FieldPlace}
    {n n' : ArrayNode} (loses : n.Loses gone n') {view : View}
    (made : site.nodeView source n = .ok view) :
    ∃ own view', takeSteps [] (walk site.dialect (site.insideNode source n).source gone) = .ok own ∧
      site.nodeView source n' = .ok view' ∧ view.Loses site.spelling own.columns view' := by
  obtain ⟨_, _, f⟩ := n
  obtain ⟨around, lies, f'⟩ := n'
  obtain ⟨rfl, rfl, cut⟩ := loses
  unfold nodeView at made ⊢
  cases passed : site.nodeFlat source ⟨around, lies, f⟩ with
  | error e => rw [passed] at made; cases made
  | ok flat =>
    obtain ⟨own, flat', before, after, alone, rest, columns, fewer⟩ := cut.walk_ok passed
    change site.nodeFlat source ⟨around, lies, f'⟩ = .ok flat' at rest
    rw [passed] at made
    cases written : Sql.childQuery site.dialect site.snapshotRef site.layout
        (site.insideNode source ⟨around, lies, f⟩).levels flat.columns with
    | error fault => simp only [nodeQuery, written] at made; cases made
    | ok query =>
      simp only [nodeQuery, written] at made
      cases made
      obtain ⟨items, others⟩ := Sql.childQuery_columns written
      have query' := others flat'.columns
      rw [columns, Sql.childItems_append, Sql.childItems_append] at items
      rw [fewer, Sql.childItems_append] at query'
      have laid : site.nodeQuery source ⟨around, lies, f'⟩ (before ++ after) = .ok
          (.of site.spelling s!"{site.top}_{joined lies.keyPath}" (query.withItems
            (Sql.childItems site.layout (site.insideNode source ⟨around, lies, f⟩).levels before ++
              Sql.columnItems after)) [site.snapshot]) := by
        unfold nodeQuery
        exact congrArg (· >>= _) query'
      rw [rest]
      simp only
      rw [fewer, laid]
      exact ⟨own, _, alone, rfl, rfl, _, _, items, rfl⟩

/-- The views of arrays that keep all their places are the same. -/
theorem views_of_kept {site : ChildSite} {source : String} {arrays arrays' : List ArrayNode}
    (kept : List.Forall₂ (ArrayNode.Loses []) arrays arrays') {views : List View}
    (made : arrays.mapM (site.nodeView source) = .ok views) :
    arrays'.mapM (site.nodeView source) = .ok views := by
  induction kept generalizing views with
  | nil => exact made
  | cons own _ ih =>
    obtain ⟨view, others, first, later, rfl⟩ := mapM_cons_ok made
    obtain ⟨nothing, view', empty, first', loses⟩ := loses_of_nodeView own first
    cases empty
    rw [List.mapM_cons, first', ih later, loses.eq_of_nil]
    rfl

theorem names_of_views {site : ChildSite} {source : String} {arrays : List ArrayNode}
    {views : List View} (made : arrays.mapM (site.nodeView source) = .ok views) :
    views.map View.name = arrays.map fun n => s!"{site.top}_{joined n.site.keyPath}" :=
  map_of_mapM_ok (fun _ _ _ own => (nodeView_ok own).2.1) made

end ChildSite

/-- The views of a schema, and those that are left when a field is gone. The view `owner` had the
columns of the field and is the same without them; the views behind it that were named `below` are
gone; all others are the same, in the same order. -/
inductive Fewer (spelling : Sql.Spelling) (gone : List Column) (owner : String)
    (below : List String) : List View → List View → Prop
  | split (before between removed after : List View) {view view' : View} (named : view.name = owner)
      (loses : view.Loses spelling gone view') (arrays : removed.map View.name = below) :
      Fewer spelling gone owner below (before ++ view :: (between ++ removed ++ after))
        (before ++ view' :: (between ++ after))

theorem Fewer.names_sublist {spelling : Sql.Spelling} {gone : List Column} {owner : String}
    {below : List String} {views views' : List View} (fewer : Fewer spelling gone owner below views views') :
    (views'.map View.name).Sublist (views.map View.name) := by
  cases fewer with
  | split before between removed after named loses _ =>
    simp only [List.map_append, List.map_cons, loses.name_eq]
    refine (List.Sublist.refl _).append (.cons_cons _ ?_)
    exact (List.sublist_append_left _ _).append (List.Sublist.refl _)

/-- The name of the view that lies inside some arrays, given from the outermost on. -/
def SchemaViews.nameInside (views : SchemaViews) (arrays : List ArraySite) : String :=
  match arrays.getLast? with
  | some a => s!"{views.top.name}_{joined a.keyPath}"
  | none => views.top.name

theorem SchemaViews.nameInside_concat (views : SchemaViews) (arrays : List ArraySite)
    (a : ArraySite) :
    views.nameInside (arrays ++ [a]) = s!"{views.top.name}_{joined a.keyPath}" := by
  rw [nameInside, List.getLast?_concat]

namespace Target

/-- The text that the columns of a view inside some arrays are taken from. -/
def textInside (t : Target) (spelling : Sql.Spelling) (arrays : List ArraySite) : String :=
  match arrays.getLast? with
  | some a => spelling.quote a.member
  | none => spelling.quote t.layout.data

/-- What is left of the views of a schema without a field `g`, which was listed at a spot. Where no view
read it they are the same. -/
def Leaves (t : Target) (g : Field) (views views' : SchemaViews) : Option Spot → Prop
  | none => views' = views
  | some spot =>
    ∃ spelling own, t.dialect.spelled = .ok spelling ∧
      flatten t.dialect (t.textInside spelling spot.around) spot.path [] [g] = .ok own ∧
      views'.schema = views.schema ∧ views'.snapshot = views.snapshot ∧
      Fewer spelling own.columns (views.nameInside spot.around)
        ((spot.arraysOf g).map fun n => views.nameInside (n.around ++ [n.site]))
        (views.top :: views.children) (views'.top :: views'.children)

theorem Leaves.nodup {t : Target} {g : Field} {views views' : SchemaViews} {target : Option Spot}
    (leaves : t.Leaves g views views' target) (apart : (views.all.map View.name).Nodup) :
    (views'.all.map View.name).Nodup := by
  cases target with
  | none =>
    obtain rfl : views' = views := leaves
    exact apart
  | some spot =>
    obtain ⟨_, _, _, _, _, snapshot, fewer⟩ := leaves
    refine List.Sublist.nodup ?_ apart
    rw [SchemaViews.all, SchemaViews.all, List.map_cons, List.map_cons, snapshot]
    exact .cons_cons _ fewer.names_sublist

variable {t : Target} {dataset : String} {first schemaName changelog : Option String}
  {schema schema' : Schema} {spelling : Sql.Spelling}

private theorem firstRepeated_of_nodup {seen names : List String} (apart : names.Nodup)
    (unseen : ∀ name ∈ names, name ∉ seen) : firstRepeated seen names = none := by
  induction names generalizing seen with
  | nil => rfl
  | cons name rest ih =>
    obtain ⟨fresh, apart⟩ := List.nodup_cons.mp apart
    have new : seen.contains name = false := by simpa using unseen name List.mem_cons_self
    rw [firstRepeated, new]
    refine ih apart fun other inside again => ?_
    rcases List.mem_cons.mp again with rfl | again
    · exact fresh inside
    · exact unseen other (List.mem_cons_of_mem _ inside) again

/-- A schema whose views can be compiled one by one has views if their names differ. -/
theorem compile_of_views {names : String × String} {flat : Flat} {children : List View}
    (proper : properNames first schemaName = .ok names) (spelled : t.dialect.spelled = .ok spelling)
    (top : t.topFlat spelling schema = .ok flat)
    (arrays : t.arrayViews spelling dataset names.1 names.2 schema = .ok children)
    (apart : ((t.assembled spelling dataset names.1 names.2 changelog flat.columns children).all.map
      View.name).Nodup) :
    t.compile dataset first schemaName schema changelog =
      .ok (t.assembled spelling dataset names.1 names.2 changelog flat.columns children) := by
  have once := firstRepeated_of_nodup apart fun _ _ => List.not_mem_nil
  have laid : t.layOut dataset first schemaName schema changelog =
      .ok (t.assembled spelling dataset names.1 names.2 changelog flat.columns children) := by
    rw [layOut_eq, proper, spelled]
    simp only [orStop, orSqlStop, bind, Except.bind, top, arrays, withoutRepeats, once]
  rw [compile, laid]

private theorem names_inside {arrays : List ArrayNode} {first name : String} {made : List View}
    (each : arrays.mapM ((t.childSite spelling dataset first name).nodeView
      (spelling.quote t.layout.data)) = .ok made) (columns : List Column) (children : List View) :
    made.map View.name = arrays.map fun n =>
      (t.assembled spelling dataset first name changelog columns children).nameInside
        (n.around ++ [n.site]) := by
  rw [ChildSite.names_of_views each]
  simp only [SchemaViews.nameInside_concat]
  rfl

/-- What is left of a schema can be compiled view by view where the schema was. -/
private theorem leaves_of_less {g : Field} {target : Option Spot} {arrays arrays' : List ArrayNode}
    {names : String × String} {flat : Flat} {children : List View}
    (spelled : t.dialect.spelled = .ok spelling)
    (less : Less g target [] (placesIn [] [] [] [] schema.fields) (placesIn [] [] [] [] schema'.fields)
      arrays arrays')
    (top : t.topFlat spelling schema = .ok flat)
    (made : arrays.mapM ((t.childSite spelling dataset names.1 names.2).nodeView
      (spelling.quote t.layout.data)) = .ok children) :
    ∃ flat' children', t.topFlat spelling schema' = .ok flat' ∧
      arrays'.mapM ((t.childSite spelling dataset names.1 names.2).nodeView
        (spelling.quote t.layout.data)) = .ok children' ∧
      t.Leaves g (t.assembled spelling dataset names.1 names.2 changelog flat.columns children)
        (t.assembled spelling dataset names.1 names.2 changelog flat'.columns children') target := by
  rw [topFlat_eq_walk] at top ⊢
  cases less with
  | unread nowhere view kept =>
    obtain ⟨flat', top', columns⟩ := view.walk_kept top
    refine ⟨flat', children, top', ChildSite.views_of_kept kept made, ?_⟩
    rw [nowhere, columns]
    rfl
  | @own spot _ _ earlier lies here view before after =>
    obtain ⟨own, flat', _, _, alone, top', columns, fewer⟩ := view.walk_ok top
    obtain ⟨flat'', alone', same⟩ := Spot.flatten_of_walk alone
    obtain ⟨front, removed, last, below, others, rfl⟩ := mapM_without made
    refine ⟨flat', front ++ last, top', others, ?_⟩
    rw [lies]
    refine ⟨spelling, flat'', spelled, ?_, rfl, rfl, ?_⟩
    · rw [here]
      exact alone'
    · rw [same, here]
      exact .split [] front removed last rfl (.typed columns fewer _ _ _ _) (names_inside below _ _)
  | @inner spot _ _ before before' owner owner' earlier lies view kept here loses between after =>
    obtain ⟨flat', top', columns⟩ := view.walk_kept top
    obtain ⟨front, fromOwner, ahead, start, rfl⟩ := mapM_append_ok made
    obtain ⟨ownView, behind, first, later, rfl⟩ := mapM_cons_ok start
    obtain ⟨middle, removed, last, below, others, rfl⟩ := mapM_without later
    obtain ⟨own, ownView', alone, first', fewer⟩ := ChildSite.loses_of_nodeView loses first
    obtain ⟨flat'', alone', same⟩ := Spot.flatten_of_walk alone
    have start' : (owner' :: (between ++ after)).mapM
        ((t.childSite spelling dataset names.1 names.2).nodeView (spelling.quote t.layout.data)) =
          .ok (ownView' :: (middle ++ last)) := by
      rw [List.mapM_cons, first', others]
      rfl
    refine ⟨flat', front ++ ownView' :: (middle ++ last), top',
      mapM_append_of_ok (ChildSite.views_of_kept kept ahead) start', ?_⟩
    rw [lies, columns]
    refine ⟨spelling, flat'', spelled, ?_, rfl, rfl, ?_⟩
    · rw [ChildSite.insideNode_source] at alone'
      rw [here, textInside, List.getLast?_concat]
      exact alone'
    · rw [same, here, SchemaViews.nameInside_concat]
      exact .split (_ :: front) middle removed last (ChildSite.nodeView_ok first).2.1 fewer
        (names_inside below _ _)

/-- A schema that has views has views without any one field of the tree. Those of the arrays at the
field and below are gone, one view lacks the columns of the field, and all others are the same, in the
same order. -/
theorem compile_without {g : Field} {target : Option Spot}
    (drops : DropsIn g target (some .top) schema.fields schema'.fields) {views : SchemaViews}
    (done : t.compile dataset first schemaName schema changelog = .ok views) :
    ∃ views', t.compile dataset first schemaName schema' changelog = .ok views' ∧
      t.Leaves g views views' target := by
  obtain ⟨names, spelling, flat, proper, spelled, top, arrays, laid, apart⟩ := layOut_ok (compile_ok done)
  obtain ⟨flat', children', top', arrays', leaves⟩ :=
    leaves_of_less spelled (lessIn_of_dropsIn drops) top arrays
  rw [← laid] at leaves
  exact ⟨_, compile_of_views proper spelled top' arrays' (leaves.nodup apart), leaves⟩

/-- A port: where it is, and an array of tags. -/
def port : Field :=
  { Field.ofKind (.ofString "port") .map with
    fields := some [Field.ofKind (.ofString "at") .geopoint, Field.ofKind (.ofString "tags") .array] }

/-- Trips with an array of legs. Each leg holds some fields between its name and its seats. -/
def trips (between : List Field) : Schema :=
  let leg := Field.ofKind (.ofString "name") .string ::
    (between ++ [Field.ofKind (.ofString "seats") .array])
  ⟨[Field.ofKind (.ofString "ship") .string,
    { Field.ofKind (.ofString "legs") .array with fields := some leg }]⟩

/-- The fields of a leg. -/
def legs : Spot := ⟨[⟨["legs"], ["legs"]⟩], ["legs"], []⟩

theorem trips_without_port :
    DropsIn port (some legs) (some .top) (trips [port]).fields (trips []).fields ∧
    ∃ views views',
      compile ⟨Sql.DuckDb.dialect, "p", .standard⟩ "d" (some "f") (some "s") (trips [port]) none =
        .ok views ∧
      compile ⟨Sql.DuckDb.dialect, "p", .standard⟩ "d" (some "f") (some "s") (trips []) none =
        .ok views' ∧
      Leaves ⟨Sql.DuckDb.dialect, "p", .standard⟩ port views views' (some legs) ∧
      views.children.map (fun view => view.query.outputs) =
        [["document_name", "legs_index", "name", "port_at_latitude", "port_at_longitude"],
         ["document_name", "legs_index", "legs_port_tags_index", "tags"],
         ["document_name", "legs_index", "legs_seats_index", "seats"]] := by
  have drops : DropsIn port (some legs) (some .top) (trips [port]).fields (trips []).fields :=
    .tail _ (.head _ (.fields rfl (.tail _ (.here _))))
  have compiled : ∃ views, compile ⟨Sql.DuckDb.dialect, "p", .standard⟩ "d" (some "f") (some "s")
      (trips [port]) none = .ok views ∧ views.children.map (fun view => view.query.outputs) =
        [["document_name", "legs_index", "name", "port_at_latitude", "port_at_longitude"],
         ["document_name", "legs_index", "legs_port_tags_index", "tags"],
         ["document_name", "legs_index", "legs_seats_index", "seats"]] := by
    unfold compile
    rw [layOut_eq]
    exact ⟨_, rfl, by decide⟩
  obtain ⟨views, done, outputs⟩ := compiled
  obtain ⟨views', rest, leaves⟩ := compile_without drops done
  exact ⟨drops, views, views', done, rest, leaves, outputs⟩

end Target
end ChangelogViews
