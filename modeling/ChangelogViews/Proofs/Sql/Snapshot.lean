import Mathlib.Data.List.Nodup
import ChangelogViews.Proofs.Sql.Chains
import ChangelogViews.Proofs.Sql.Doubled
import ChangelogViews.Sql.Dialects

/-!
# Snapshots

A snapshot ranks the writes of each document in an inner query and keeps some of its rows. Whatever the
outer query reads is a column of the inner one, but a layout may give one name to several columns, or
the name of the rank to one of its own. The text of the inner query is moved to the right when its names
are quoted already, which leaves a name as it is exactly if no line ends in it (`snapshot_reads`).
-/

namespace ChangelogViews

namespace ChangelogLayout

variable (layout : ChangelogLayout)

theorem documentName_mem : layout.documentName ∈ layout.snapshotColumns :=
  List.mem_append_left _ (List.mem_append_left _ List.mem_cons_self)

theorem named_mem {name : String}
    (named : name ∈ [layout.timestamp, layout.sequence, layout.operation, layout.data]) :
    name ∈ layout.snapshotColumns := List.mem_append_right _ named

end ChangelogLayout

namespace Sql

open Text (isLineEnd isBlank indent EndsVisibly)

private theorem columns_names (names : List String) : (names.map Item.column).map Item.name = names := by
  rw [List.map_map]
  exact List.map_id _

theorem snapshotQuery_outputs (spelling : Spelling) (changelog : String) (layout : ChangelogLayout) :
    (snapshotQuery spelling changelog layout).outputs = layout.snapshotColumns :=
  columns_names _

/-- How the writes of a document are ranked. -/
def rankExpression (quote : String → String) (layout : ChangelogLayout) : String :=
  s!"ROW_NUMBER() OVER (PARTITION BY {quote layout.documentName} " ++
    s!"ORDER BY {quote layout.timestamp} DESC, {quote layout.sequence} DESC)"

theorem rankedWrites_items (spelling : Spelling) (changelog : String) (layout : ChangelogLayout) :
    (rankedWrites spelling changelog layout).items = layout.snapshotColumns.map .column ++
      [.computed (rankExpression spelling.quote layout) rankColumn] := rfl

theorem rankedWrites_outputs (spelling : Spelling) (changelog : String) (layout : ChangelogLayout) :
    (rankedWrites spelling changelog layout).outputs = layout.snapshotColumns ++ [rankColumn] := by
  rw [Select.outputs, rankedWrites_items, List.map_append, columns_names]
  rfl

/-- The columns that the outer query of a snapshot reads: those that it puts out, and in its conditions
the rank and the operation. -/
def snapshotReads (layout : ChangelogLayout) : List String :=
  layout.snapshotColumns ++ [rankColumn, layout.operation]

theorem mem_snapshotReads {layout : ChangelogLayout} {name : String} :
    name ∈ snapshotReads layout ↔ name ∈ layout.snapshotColumns ++ [rankColumn] := by
  have operation : layout.operation ∈ layout.snapshotColumns := layout.named_mem (by simp)
  simp only [snapshotReads, List.mem_append, List.mem_cons, List.not_mem_nil, or_false]
  constructor
  · rintro (column | rank | rfl)
    · exact .inl column
    · exact .inr rank
    · exact .inl operation
  · rintro (column | rank)
    · exact .inl column
    · exact .inr (.inl rank)

/-- All that is read is there once exactly if no two columns have one name and none has the name of the
rank. -/
theorem read_once_iff (layout : ChangelogLayout) :
    (∀ name ∈ snapshotReads layout, (layout.snapshotColumns ++ [rankColumn]).count name = 1) ↔
      layout.snapshotColumns.Nodup ∧ rankColumn ∉ layout.snapshotColumns := by
  have once :
      (∀ name ∈ snapshotReads layout, (layout.snapshotColumns ++ [rankColumn]).count name = 1) ↔
        (layout.snapshotColumns ++ [rankColumn]).Nodup := by
    rw [List.nodup_iff_count_eq_one]
    exact forall_congr' fun name => by rw [mem_snapshotReads]
  rw [once, List.nodup_append]
  constructor
  · rintro ⟨apart, _, other⟩
    exact ⟨apart, fun inside => other _ inside _ (List.mem_singleton.mpr rfl) rfl⟩
  · rintro ⟨apart, other⟩
    refine ⟨apart, List.pairwise_singleton _ _, ?_⟩
    rintro name inside _ last rfl
    exact other (List.mem_singleton.mp last ▸ inside)

theorem forall_mem_withEach {escape mark : Char} {good : Char → Prop} (own : good escape)
    (text : List Char) : (∀ c ∈ withEach escape mark text, good c) ↔ ∀ c ∈ text, good c := by
  induction text with
  | nil => rfl
  | cons c text ih =>
    rw [withEach_cons, List.forall_mem_append, ih, List.forall_mem_cons]
    split
    · rw [List.forall_mem_cons, List.forall_mem_singleton, and_iff_right own]
    · rw [List.forall_mem_singleton]

/-- Names stand between marks that can be seen, with an escape before each mark in them. -/
structure Marked (escape mark : Char) (quote : String → String) : Prop where
  written : ∀ name, (quote name).toList = mark :: (withEach escape mark name.toList ++ [mark])
  visible : isBlank mark = false
  goesOn : isLineEnd escape = false

theorem marked_of_dialects {d : Dialect} (shipped : d ∈ dialects) {spelling : Spelling}
    (spelled : d.spelled = .ok spelling) : ∃ escape mark, Marked escape mark spelling.quote := by
  rcases List.mem_cons.mp shipped with rfl | shipped
  · cases spelled
    exact ⟨'\\', BigQuery.mark, BigQuery.toList_quote, by decide, by decide⟩
  · rw [List.mem_singleton.mp shipped] at spelled
    cases spelled
    exact ⟨'"', '"', DuckDb.toList_quote, by decide, by decide⟩

theorem render_computed (quote : String → String) (expression name : String) :
    (Item.computed expression name).render quote = expression ++ s!" AS {quote name}" :=
  String.append_assoc

/-- The lines of a snapshot, those of the inner query moved to the right as they are written. -/
def snapshotLines (spelling : Spelling) (changelog : String) (layout : ChangelogLayout) : List String :=
  let q := spelling.quote
  let name := q "ranked"
  ["SELECT",
   ",\n".intercalate (layout.snapshotColumns.map fun name => margin ++ q name),
   "FROM (",
   margin ++ "SELECT",
   ",\n".intercalate (layout.snapshotColumns.map (fun name => indent margin (margin ++ q name)) ++
     [indent margin (margin ++ rankExpression q layout) ++ s!" AS {q rankColumn}"]),
   indent margin s!"FROM {changelog}",
   s!") AS {name}",
   s!"WHERE {q rankColumn} = 1",
   s!"{margin}AND {q layout.operation} IS DISTINCT FROM {literal layout.deleteOperation}"]

namespace Marked

variable {escape mark : Char} {quote : String → String} (marked : Marked escape mark quote)

include marked

theorem endsVisibly (name : String) : EndsVisibly (quote name) := by
  refine ⟨mark, ?_, marked.visible⟩
  rw [marked.written, ← List.cons_append, List.getLast?_concat]
  exact Option.mem_some_self _

theorem isLineEnd_quote (name : String) :
    (∀ c ∈ (quote name).toList, isLineEnd c = false) ↔ ∀ c ∈ name.toList, isLineEnd c = false := by
  have seen := Text.isLineEnd_of_visible marked.visible
  rw [marked.written, List.forall_mem_cons, List.forall_mem_append, List.forall_mem_singleton,
    forall_mem_withEach marked.goesOn]
  exact ⟨fun all => all.2.1, fun all => ⟨seen, all, seen⟩⟩

/-- A name on a line of its own is moved as it is exactly if no line ends in it. -/
theorem indent_name_iff (name : String) :
    indent margin (margin ++ quote name) = margin ++ (margin ++ quote name) ↔
      ∀ c ∈ name.toList, isLineEnd c = false := by
  have shape : (margin ++ quote name).toList =
      margin.toList ++ mark :: (withEach escape mark name.toList ++ [mark]) := by
    rw [String.toList_append, marked.written]
  have moved : Text.indentLines margin.toList (Text.linesOf (margin ++ quote name).toList) =
      margin.toList ++ (margin ++ quote name).toList ↔
        ∀ c ∈ withEach escape mark name.toList, isLineEnd c = false := by
    rw [shape]
    exact Text.indentLines_eq_iff (List.cons_ne_nil _ _) (Text.forall_not_lineEnd rfl) marked.visible
      marked.visible
  have text : (margin ++ (margin ++ quote name)).toList =
      margin.toList ++ (margin ++ quote name).toList := String.toList_append
  rw [← forall_mem_withEach marked.goesOn name.toList, ← moved, ← String.toList_inj, Text.indent_eq,
    String.toList_ofList, text]

theorem endsVisibly_item (item : Item) : EndsVisibly (margin ++ item.render quote) := by
  cases item with
  | column name => exact (marked.endsVisibly name).append _
  | computed expression name =>
    rw [render_computed]
    exact (((marked.endsVisibly name).append _).append _).append _

/-- The columns of a query are moved to the right one by one. -/
theorem indent_renderItems (items : List Item) :
    indent margin (Select.renderItems quote items) =
      ",\n".intercalate (items.map fun item => indent margin (margin ++ item.render quote)) := by
  have ends : ∀ line ∈ items.map fun item => margin ++ item.render quote, EndsVisibly line := by
    intro line among
    obtain ⟨item, _, rfl⟩ := List.mem_map.mp among
    exact marked.endsVisibly_item item
  rw [Select.renderItems, Text.indent_list margin ends, List.map_map]
  rfl

/-- Of the rank only the expression is moved, not the name. -/
theorem indent_rank (layout : ChangelogLayout) :
    indent margin (margin ++ (Item.computed (rankExpression quote layout) rankColumn).render quote) =
      indent margin (margin ++ rankExpression quote layout) ++ s!" AS {quote rankColumn}" := by
  have bracket : EndsVisibly " DESC)" := ⟨')', by decide, by decide⟩
  have ends : EndsVisibly (margin ++ rankExpression quote layout) :=
    ((bracket.append _).append _).append _
  have name : ∀ c ∈ (s!" AS {quote rankColumn}").toList, isLineEnd c = false := by
    have quoted := (marked.isLineEnd_quote rankColumn).mpr (Text.forall_not_lineEnd rfl)
    have text : (s!" AS {quote rankColumn}").toList = " AS ".toList ++ (quote rankColumn).toList :=
      String.toList_append
    rw [text, List.forall_mem_append]
    exact ⟨Text.forall_not_lineEnd rfl, quoted⟩
  rw [render_computed, ← String.append_assoc, Text.indent_append margin ends name]

end Marked

/-- The text of a snapshot is that of its lines. -/
theorem Marked.snapshotQuery_lines {escape mark : Char} {spelling : Spelling}
    (marked : Marked escape mark spelling.quote) (changelog : String) (layout : ChangelogLayout) :
    (snapshotQuery spelling changelog layout).render spelling.quote =
      "\n".intercalate (snapshotLines spelling changelog layout) := by
  have outer : Select.renderItems spelling.quote (snapshotQuery spelling changelog layout).items =
      ",\n".intercalate (layout.snapshotColumns.map fun name => margin ++ spelling.quote name) := by
    rw [Select.renderItems, snapshotQuery, Select.items, List.map_map]
    rfl
  have inner := marked.indent_renderItems (rankedWrites spelling changelog layout).items
  rw [rankedWrites_items, List.map_append, List.map_map, List.map_singleton, marked.indent_rank] at inner
  rw [Select.render_eq_stacked, snapshotLines, ← outer]
  exact congrArg (fun items => "\n".intercalate ["SELECT", _, "FROM (", _, items, _, _, _, _]) inner

/-- All that the outer query of a snapshot reads is a column of the inner one, and it is there once
exactly if no two columns of the layout have one name and none has the name of the rank. In the dialects
that are known, the inner query has a name in the same quotes exactly if no line ends in the name. -/
theorem snapshot_reads (spelling : Spelling) (changelog : String) (layout : ChangelogLayout) :
    (snapshotQuery spelling changelog layout).items = layout.snapshotColumns.map .column ∧
    (rankedWrites spelling changelog layout).outputs = layout.snapshotColumns ++ [rankColumn] ∧
    (∀ name ∈ snapshotReads layout, name ∈ (rankedWrites spelling changelog layout).outputs) ∧
    ((∀ name ∈ snapshotReads layout,
        (rankedWrites spelling changelog layout).outputs.count name = 1) ↔
      layout.snapshotColumns.Nodup ∧ rankColumn ∉ layout.snapshotColumns) ∧
    ∀ d ∈ dialects, d.spelled = .ok spelling →
      (snapshotQuery spelling changelog layout).render spelling.quote =
        "\n".intercalate (snapshotLines spelling changelog layout) ∧
      ∀ name, indent margin (margin ++ spelling.quote name) = margin ++ (margin ++ spelling.quote name) ↔
        ∀ c ∈ name.toList, isLineEnd c = false := by
  rw [rankedWrites_outputs]
  refine ⟨rfl, rfl, fun name => mem_snapshotReads.mp, read_once_iff layout, ?_⟩
  intro d shipped spelled
  obtain ⟨escape, mark, marked⟩ := marked_of_dialects shipped spelled
  exact ⟨marked.snapshotQuery_lines changelog layout, marked.indent_name_iff⟩

theorem standardSnapshot_reads :
    (∀ name ∈ snapshotReads .standard,
      (rankedWrites DuckDb.spelling "r" .standard).outputs.count name = 1) ∧
    DuckDb.dialect ∈ dialects ∧ DuckDb.dialect.spelled = .ok DuckDb.spelling ∧
    (snapshotQuery DuckDb.spelling "r" .standard).render DuckDb.quote =
      "\n".intercalate (snapshotLines DuckDb.spelling "r" .standard) ∧
    ∀ name ∈ snapshotReads .standard,
      indent margin (margin ++ DuckDb.quote name) = margin ++ (margin ++ DuckDb.quote name) := by
  obtain ⟨_, _, _, once, known⟩ := snapshot_reads DuckDb.spelling "r" .standard
  have shipped : DuckDb.dialect ∈ dialects := List.mem_cons_of_mem _ List.mem_cons_self
  obtain ⟨text, moved⟩ := known DuckDb.dialect shipped rfl
  have tested : (snapshotReads .standard).all (·.toList.all (!isLineEnd ·)) = true := rfl
  have whole : ∀ name ∈ snapshotReads .standard, ∀ c ∈ name.toList, isLineEnd c = false :=
    fun name among => Text.forall_not_lineEnd (List.all_eq_true.mp tested name among)
  exact ⟨once.mpr (by decide), shipped, rfl, text,
    fun name among => (moved name).mpr (whole name among)⟩

/-- A layout is taken as it is if two of its columns have one name, if one has the name of the rank, and
if a line ends in a name, which the inner query then has in other quotes. -/
theorem looseLayouts_ambiguous :
    (ChangelogLayout.check (.object [("sequence", .text (.ofString "timestamp"))]) =
        .ok { ChangelogLayout.standard with sequence := "timestamp" } ∧
      (rankedWrites DuckDb.spelling "r"
        { ChangelogLayout.standard with sequence := "timestamp" }).outputs.count "timestamp" = 2) ∧
    (ChangelogLayout.check (.object [("data", .text (.ofString "changelog_rank"))]) =
        .ok { ChangelogLayout.standard with data := "changelog_rank" } ∧
      (rankedWrites DuckDb.spelling "r"
        { ChangelogLayout.standard with data := "changelog_rank" }).outputs.count "changelog_rank" = 2) ∧
    ChangelogLayout.check (.object [("data", .text (.ofString "a\nb"))]) =
        .ok { ChangelogLayout.standard with data := "a\nb" } ∧
      indent margin (margin ++ DuckDb.quote "a\nb") = margin ++ (margin ++ DuckDb.quote "a\n  b") := by
  refine ⟨⟨rfl, by decide⟩, ⟨rfl, by decide⟩, rfl, by decide⟩

end Sql
end ChangelogViews
