import ChangelogViews.Proofs.Sql.Snapshot
import ChangelogViews.Proofs.Views.Unnesting

/-!
# Nested queries of array views

In a dialect that unnests in lists of columns, the view of an array is a chain of queries, one for each
array around its elements and one around them. Every query of the chain finds what it reads in the one
below it, down to the name and the data of the document (`sub_selects_served`).
-/

namespace ChangelogViews

open Sql (Select)

/-- The columns of typed values are taken from the text that they are rendered against. -/
theorem columnItems_reads {d : Sql.Dialect} {spelling : Sql.Spelling} {name : String}
    {places : List FieldPlace} :
    ∀ item ∈ Sql.columnItems (columnsAt d (spelling.quote name) places),
      item.Reads d spelling name := by
  intro item inside
  obtain ⟨column, listed, rfl⟩ := List.mem_map.mp inside
  obtain ⟨p, _, own⟩ := List.mem_flatMap.mp listed
  obtain ⟨rule, among, rfl⟩ := List.mem_map.mp own
  unfold FieldPlace.rules at among
  split at among
  · next resolved => exact .value resolved among _ _
  · cases among

/-- Along a chain of levels each array is taken from the text inside the levels before it. -/
theorem Chained.sourced {quote : String → String} {layout : ChangelogLayout} {arrays : List ArraySite}
    {levels : List UnnestLevel} (chained : Chained quote (quote layout.data) arrays levels) :
    Sql.Sourced quote layout levels := by
  rintro outer level inner rfl
  cases last : outer.getLast? with
  | none =>
    rw [List.getLast?_eq_none_iff.mp last] at chained ⊢
    exact chained.outermost level rfl
  | some before =>
    rw [Sql.textColumn, last]
    exact (List.isChain_append.mp chained.inside).2.2 before last level rfl

/-- The view of an array node is a chain of queries over `levels`, one for each array from the outermost
on. Each of them takes its array from the text inside those before it, and the typed columns are taken
from the text inside them all. -/
structure View.SubSelects (d : Sql.Dialect) (spelling : Sql.Spelling) (layout : ChangelogLayout)
    (snapshot : String) (n : ArrayNode) (levels : List UnnestLevel) (view : View) : Prop where
  labels : levels.map (fun level => (level.member, level.index)) =
    (n.around ++ [n.site]).map fun a => (a.member, a.index)
  sourced : Sql.Sourced spelling.quote layout levels
  outermost : view.query.items = .column layout.documentName :: levels.map (.column ·.index) ++
    Sql.columnItems (columnsAt d (spelling.quote (Sql.textColumn layout levels)) n.places)
  spans : view.query.Over spelling snapshot layout levels
  text : view.sql = view.query.render spelling.quote
  served : view.query.Served d spelling [layout.documentName, layout.data]

/-- What a view of array elements shows can be read inside its levels. -/
private theorem childItems_reads (d : Sql.Dialect) (spelling : Sql.Spelling) (layout : ChangelogLayout)
    (levels : List UnnestLevel) (places : List FieldPlace) :
    ∀ item ∈ Sql.childItems layout levels
        (columnsAt d (spelling.quote (Sql.textColumn layout levels)) places),
      ∃ name ∈ Sql.readable layout levels, item.Reads d spelling name := by
  intro item inside
  rcases List.mem_append.mp inside with given | typed
  · exact Sql.handed_reads item given
  · exact ⟨_, Sql.textColumn_mem_readable layout levels, columnItems_reads item typed⟩

/-- In the style of nested queries, a view that is cut along a chain of levels is a chain of queries. -/
theorem View.Unnests.subSelects {d : Sql.Dialect} {spelling : Sql.Spelling} {layout : ChangelogLayout}
    {snapshot : String} {n : ArrayNode} {levels : List UnnestLevel} {view : View}
    (unnests : view.Unnests d spelling layout snapshot levels n.places)
    (select : d.style = .selectList) (spelled : d.spelled = .ok spelling)
    (chained : Chained spelling.quote (spelling.quote layout.data) (n.around ++ [n.site]) levels) :
    view.SubSelects d spelling layout snapshot n levels := by
  obtain ⟨last, isLast, written, text⟩ := unnests
  have member : last.member = Sql.textColumn layout levels := by
    rw [Sql.textColumn, Option.mem_def.mp isLast]
    rfl
  rw [member] at written
  obtain ⟨items, spans⟩ := Sql.over_of_childQuery snapshot layout select spelled written
  have reads := childItems_reads d spelling layout levels n.places
  rw [← items] at reads
  exact ⟨chained.labels, chained.sourced, items, spans, text, spans.served chained.sourced reads⟩

namespace Target

/-- In the style of nested queries, unnesting some levels takes one query for each of them and one around
these. Each has the name of the document, the ordinals in the levels before, and members and ordinals of its
own, and stands one step further to the right than the one that reads it. In the views of the arrays of a
schema, every query finds what it reads in the one below it, and the innermost one reads columns of the
snapshot. -/
theorem sub_selects_served {t : Target} (select : t.dialect.style = .selectList) :
    (∀ (snapshot : String) (layout : ChangelogLayout) (levels : List UnnestLevel)
        (columns : List Column), levels ≠ [] →
      ∃ query : Sql.Spelling → Select,
        Sql.childQuery t.dialect snapshot layout levels columns = t.dialect.spelled.map query ∧
        ∀ spelling,
          (query spelling).items = .column layout.documentName :: levels.map (.column ·.index) ++
            columns.map (fun column => .computed column.expression column.label) ∧
          (query spelling).Over spelling snapshot layout levels ∧
          (query spelling).chain.length = levels.length + 1 ∧
          (query spelling).render spelling.quote =
            Sql.stacked ((query spelling).blocks spelling.quote 0)) ∧
    ∀ (dataset : String) (first schemaName : Option String) (schema : Schema)
        (changelog : Option String) (views : SchemaViews),
      t.compile dataset first schemaName schema changelog = .ok views →
      ∃ spelling, t.dialect.spelled = .ok spelling ∧
        [t.layout.documentName, t.layout.data] ⊆ views.snapshot.query.outputs ∧
        List.Forall₂ (fun n view => ∃ levels, View.SubSelects t.dialect spelling t.layout
            (spelling.tableRef t.project dataset views.snapshot.name) n levels view)
          schema.arrayNodes views.children := by
  constructor
  · intro snapshot layout levels columns some
    refine ⟨fun spelling => Sql.overLevels spelling snapshot layout
      (Sql.childItems layout levels columns) levels.reverse,
      Sql.childQuery_selectList snapshot layout select some columns, fun spelling => ?_⟩
    have spans := Sql.overLevels_reverse_over spelling snapshot layout
      (Sql.childItems layout levels columns) levels
    exact ⟨Sql.overLevels_items _ _ _ _ _, spans, spans.length_chain, Select.render_eq_stacked _ _⟩
  · intro dataset first schemaName schema changelog views done
    obtain ⟨names, spelling, flat, _, spelled, _, arrays, laid, _⟩ := layOut_ok (compile_ok done)
    refine ⟨spelling, spelled, ?_, ?_⟩
    · have outputs : views.snapshot.query.outputs = t.layout.snapshotColumns := by
        rw [laid]
        exact Sql.snapshotQuery_outputs _ _ _
      rw [outputs]
      exact List.cons_subset.mpr ⟨t.layout.documentName_mem,
        List.cons_subset.mpr ⟨t.layout.named_mem (by simp), List.nil_subset _⟩⟩
    · rw [laid]
      let site := t.childSite spelling dataset names.1 names.2
      refine forall₂_of_mapM_ok (fun n listed view made => ?_) arrays
      have unnests := site.unnests_of_nodeView made
      have chained := site.enclosing_chained (spelling.quote t.layout.data)
        (growing_of_arrayNodes n listed).2
      exact ⟨_, unnests.subSelects select spelled chained⟩

theorem deepArrays_sub_selects :
    Sql.DuckDb.dialect.style = .selectList ∧
    (∃ query : Sql.Spelling → Select,
      Sql.childQuery Sql.DuckDb.dialect "r" .standard
          [⟨"\"data\"", "$.a", "a_member", "a_index"⟩,
           ⟨"\"a_member\"", "$", "a_x_member", "a_x_index"⟩] [] =
        .ok (query Sql.DuckDb.spelling) ∧
      (query Sql.DuckDb.spelling).outputs = ["document_name", "a_index", "a_x_index"] ∧
      (query Sql.DuckDb.spelling).chain.length = 3) ∧
    ∃ views, compile ⟨Sql.DuckDb.dialect, "p", .standard⟩ "d" (some "f") (some "s") deepArrays none =
        .ok views ∧
      ∃ spelling, Sql.DuckDb.dialect.spelled = .ok spelling ∧
        ["document_name", "data"] ⊆ views.snapshot.query.outputs ∧
        List.Forall₂ (fun n view => ∃ levels, View.SubSelects Sql.DuckDb.dialect spelling .standard
            (spelling.tableRef "p" "d" views.snapshot.name) n levels view)
          deepArrays.arrayNodes views.children := by
  obtain ⟨queries, arrays⟩ :=
    sub_selects_served (t := ⟨Sql.DuckDb.dialect, "p", .standard⟩) rfl
  have compiled : ∃ views, compile ⟨Sql.DuckDb.dialect, "p", .standard⟩ "d" (some "f") (some "s")
      deepArrays none = .ok views := by
    unfold compile
    rw [layOut_eq]
    exact ⟨_, rfl⟩
  obtain ⟨views, done⟩ := compiled
  refine ⟨rfl, ?_, views, done, arrays "d" (some "f") (some "s") deepArrays none views done⟩
  obtain ⟨query, written, known⟩ := queries "r" .standard
    [⟨"\"data\"", "$.a", "a_member", "a_index"⟩, ⟨"\"a_member\"", "$", "a_x_member", "a_x_index"⟩] []
    (List.cons_ne_nil _ _)
  obtain ⟨items, _, length, _⟩ := known Sql.DuckDb.spelling
  refine ⟨query, written, ?_, length⟩
  rw [Select.outputs, items]
  rfl

end Target
end ChangelogViews
