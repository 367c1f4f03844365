import ChangelogViews.Proofs.Text.Indented
import ChangelogViews.Sql.ViewQuery

/-!
# Chains of queries

A query that reads another one is written around it, with the inner query one step further to the right
(`Select.render_eq_stacked`). Where arrays are unnested in lists of columns there is one query for each
level. It hands on the name of the document and the ordinals in the levels around it, and adds member and
ordinal of its own (`Select.Over`). If each level takes its array from the member of the one around it,
every query finds what it reads in the query below (`Select.Over.served`).
-/

namespace ChangelogViews.Sql

/-- The text of a query from top to bottom in blocks of whole lines, each with the number of steps that it
stands to the right. The blocks of a query that is read stand one step further than those around them. -/
def Select.blocks (quote : String → String) (depth : Nat) : Select → List (Nat × String)
  | .fromTable items table clauses =>
    (["SELECT", renderItems quote items, s!"FROM {table}"] ++ clauses).map (depth, ·)
  | .fromQuery items query name clauses =>
    ["SELECT", renderItems quote items, "FROM ("].map (depth, ·) ++
      (query.blocks quote (depth + 1) ++ (s!") AS {quote name}" :: clauses).map (depth, ·))

/-- The text of some blocks, each moved to the right by its steps. -/
def stacked (blocks : List (Nat × String)) : String :=
  "\n".intercalate (blocks.map fun (depth, text) => (Text.indent margin)^[depth] text)

/-- Lines that are put together first can be put between others. -/
theorem intercalate_between (separator : String) {before within behind : List String}
    (ne : before ≠ []) (some : within ≠ []) (last : behind ≠ []) :
    separator.intercalate (before ++ (separator.intercalate within :: behind)) =
      separator.intercalate (before ++ (within ++ behind)) := by
  rw [String.intercalate_append_of_ne_nil ne (List.cons_ne_nil _ _),
    String.intercalate_append_of_ne_nil ne (List.append_ne_nil_of_left_ne_nil some _),
    ← List.singleton_append, String.intercalate_append_of_ne_nil (List.cons_ne_nil _ _) last,
    String.intercalate_append_of_ne_nil some last, String.intercalate_singleton]

namespace Select

theorem blocks_ne_nil (quote : String → String) (depth : Nat) (q : Select) :
    q.blocks quote depth ≠ [] := by
  cases q with
  | fromTable items table clauses => exact List.cons_ne_nil _ _
  | fromQuery items query name clauses => exact List.cons_ne_nil _ _

/-- A query some steps to the right is written in blocks from there on. -/
theorem iterate_indent_render (quote : String → String) (q : Select) (depth : Nat) :
    (Text.indent margin)^[depth] (q.render quote) = stacked (q.blocks quote depth) := by
  induction q generalizing depth with
  | fromTable items table clauses =>
    rw [render, Text.iterate_indent_intercalate, stacked, blocks, List.map_map]
    rfl
  | fromQuery items query name clauses ih =>
    have inner := ih (depth + 1)
    rw [Function.iterate_succ_apply, stacked] at inner
    rw [render, Text.iterate_indent_intercalate]
    change "\n".intercalate (["SELECT", renderItems quote items, "FROM ("].map (Text.indent margin)^[depth]
      ++ ((Text.indent margin)^[depth] (Text.indent margin (query.render quote)) ::
        (s!") AS {quote name}" :: clauses).map (Text.indent margin)^[depth])) = _
    rw [inner]
    refine (intercalate_between "\n" ?_ ?_ ?_).trans ?_
    · exact List.cons_ne_nil _ _
    · exact mt List.map_eq_nil_iff.mp (query.blocks_ne_nil quote _)
    · exact List.cons_ne_nil _ _
    · rw [stacked, blocks, List.map_append, List.map_append, List.map_map, List.map_map]
      rfl

/-- The text of a query is that of its blocks. -/
theorem render_eq_stacked (quote : String → String) (q : Select) :
    q.render quote = stacked (q.blocks quote 0) :=
  iterate_indent_render quote q 0

end Select

namespace Select

/-- A query and the queries inside it, from the outermost inwards. -/
def chain : Select → List Select
  | .fromTable items table clauses => [.fromTable items table clauses]
  | .fromQuery items query name clauses => .fromQuery items query name clauses :: query.chain

/-- A query over some levels, given from the outermost on. Behind the last of them it reads a query that has
the name of the document, the ordinal of each level before, and from one array the members and their ordinals.
This in turn is a query over the levels before, and over no level the snapshot is read. -/
inductive Over (spelling : Spelling) (snapshot : String) (layout : ChangelogLayout) :
    List UnnestLevel → Select → Prop
  | snapshot (items : List Item) : Over spelling snapshot layout [] (.fromTable items snapshot [])
  | level {outer : List UnnestLevel} {level : UnnestLevel} {below : Select} {array : String}
      (items : List Item) (unnested : array = spelling.extractArray level.source level.jsonPath)
      (handed : below.items = .column layout.documentName :: outer.map (.column ·.index) ++
        [.computed s!"unnest({array})" level.member,
         .computed s!"unnest(range(len({array})))" level.index])
      (spans : Over spelling snapshot layout outer below) :
      Over spelling snapshot layout (outer ++ [level])
        (.fromQuery items below (level.member ++ "_rows") [])

variable {spelling : Spelling} {snapshot : String} {layout : ChangelogLayout}

/-- There is one query for each level and one around them. -/
theorem Over.length_chain {levels : List UnnestLevel} {q : Select}
    (spans : q.Over spelling snapshot layout levels) : q.chain.length = levels.length + 1 := by
  induction spans with
  | snapshot items => rfl
  | level items unnested handed spans ih => rw [chain, List.length_cons, ih, List.length_append]; rfl

end Select

section

variable (spelling : Spelling) (snapshot : String) (layout : ChangelogLayout)

theorem overLevels_items (items : List Item) (levels : List UnnestLevel) :
    (overLevels spelling snapshot layout items levels).items = items := by
  cases levels with
  | nil => rfl
  | cons level outer => rfl

theorem overLevels_over (items : List Item) (levels : List UnnestLevel) :
    (overLevels spelling snapshot layout items levels).Over spelling snapshot layout levels.reverse := by
  induction levels generalizing items with
  | nil => exact .snapshot items
  | cons level outer ih =>
    rw [List.reverse_cons]
    exact .level items rfl (overLevels_items spelling snapshot layout _ outer) (ih _)

theorem overLevels_reverse_over (items : List Item) (levels : List UnnestLevel) :
    (overLevels spelling snapshot layout items levels.reverse).Over spelling snapshot layout levels := by
  have spans := overLevels_over spelling snapshot layout items levels.reverse
  rwa [List.reverse_reverse] at spans

/-- In the style of nested queries the elements of some arrays are read along a chain. -/
theorem childQuery_selectList {d : Dialect} (select : d.style = .selectList)
    {levels : List UnnestLevel} (some : levels ≠ []) (columns : List Column) :
    childQuery d snapshot layout levels columns = d.spelled.map fun spelling =>
      overLevels spelling snapshot layout (childItems layout levels columns) levels.reverse := by
  cases levels with
  | nil => exact absurd rfl some
  | cons level rest =>
    unfold childQuery
    rw [select]
    cases d.spelled with
    | error fault => rfl
    | ok spelling => rfl

/-- A query over the elements of some arrays, as it is in the style of nested queries. -/
theorem over_of_childQuery {d : Dialect} (select : d.style = .selectList) {spelling : Spelling}
    (spelled : d.spelled = .ok spelling) {levels : List UnnestLevel} {columns : List Column}
    {query : Select} (written : childQuery d snapshot layout levels columns = .ok query) :
    query.items = childItems layout levels columns ∧ query.Over spelling snapshot layout levels := by
  by_cases none : levels = []
  · rw [none] at written
    cases written
  · rw [childQuery_selectList snapshot layout select none, spelled] at written
    cases written
    exact ⟨overLevels_items _ _ _ _ _, overLevels_reverse_over _ _ _ _ _⟩

end

/-- The column with the JSON text that is read inside some levels: the members of the last level, or the
data of the document. -/
def textColumn (layout : ChangelogLayout) (levels : List UnnestLevel) : String :=
  (levels.getLast?.map UnnestLevel.member).getD layout.data

/-- Each level takes its array from the text inside the levels before it. -/
def Sourced (quote : String → String) (layout : ChangelogLayout) (levels : List UnnestLevel) : Prop :=
  ∀ outer level inner, levels = outer ++ level :: inner →
    level.source = quote (textColumn layout outer)

/-- An output column is taken from the column `name` of what the query reads: it is that column, the members
or the ordinals of an array in it, or a typed value in it. -/
inductive Item.Reads (d : Dialect) (spelling : Spelling) (name : String) : Item → Prop
  | column : Item.Reads d spelling name (.column name)
  | member (path label : String) : Item.Reads d spelling name
      (.computed s!"unnest({spelling.extractArray (spelling.quote name) path})" label)
  | position (path label : String) : Item.Reads d spelling name
      (.computed s!"unnest(range(len({spelling.extractArray (spelling.quote name) path})))" label)
  | value {subject : TypeSubject} {rules : List ColumnRule} {rule : ColumnRule}
      (resolved : d.resolve subject = .ok rules) (listed : rule ∈ rules) (path label : String) :
      Item.Reads d spelling name (.computed (rule.template.render (spelling.quote name) path) label)

/-- Every query along a chain reads columns that the query below it has, and the innermost one reads
some of `columns`. -/
def Select.Served (d : Dialect) (spelling : Spelling) (columns : List String) : Select → Prop
  | .fromTable items _ _ => ∀ item ∈ items, ∃ name ∈ columns, item.Reads d spelling name
  | .fromQuery items query _ _ =>
    (∀ item ∈ items, ∃ name ∈ query.outputs, item.Reads d spelling name) ∧
      query.Served d spelling columns

/-- What can be read inside some levels: the name of the document, the text, and the ordinals. -/
def readable (layout : ChangelogLayout) (levels : List UnnestLevel) : List String :=
  layout.documentName :: textColumn layout levels :: levels.map UnnestLevel.index

/-- The name of the document and the ordinals can be read inside the levels that have them. -/
theorem handed_reads {d : Dialect} {spelling : Spelling} {layout : ChangelogLayout}
    {levels : List UnnestLevel} :
    ∀ item ∈ Item.column layout.documentName :: levels.map (.column ·.index),
      ∃ name ∈ readable layout levels, item.Reads d spelling name := by
  intro item inside
  rcases List.mem_cons.mp inside with rfl | position
  · exact ⟨_, List.mem_cons_self, .column⟩
  · obtain ⟨level, among, rfl⟩ := List.mem_map.mp position
    exact ⟨level.index, List.mem_cons_of_mem _ (List.mem_cons_of_mem _ (List.mem_map_of_mem among)),
      .column⟩

theorem textColumn_mem_readable (layout : ChangelogLayout) (levels : List UnnestLevel) :
    textColumn layout levels ∈ readable layout levels := List.mem_cons_of_mem _ List.mem_cons_self

theorem Sourced.outer {quote : String → String} {layout : ChangelogLayout}
    {levels inner : List UnnestLevel} (sourced : Sourced quote layout (levels ++ inner)) : Sourced quote layout levels := by
  intro outer level rest split
  exact sourced outer level (rest ++ inner) (by rw [split, List.append_assoc, List.cons_append])

/-- A query of a chain that reads what can be read inside its levels finds it below, and so does each
query inside it. -/
theorem Select.Over.served {d : Dialect} {spelling : Spelling} {snapshot : String}
    {layout : ChangelogLayout} {levels : List UnnestLevel} {q : Select}
    (spans : q.Over spelling snapshot layout levels) (sourced : Sourced spelling.quote layout levels)
    (reads : ∀ item ∈ q.items, ∃ name ∈ readable layout levels, item.Reads d spelling name) :
    q.Served d spelling [layout.documentName, layout.data] := by
  induction spans with
  | snapshot items => exact reads
  | @level outer level below array items unnested handed spans ih =>
    have source : level.source = spelling.quote (textColumn layout outer) := sourced outer level [] rfl
    rw [source] at unnested
    constructor
    · intro item inside
      obtain ⟨name, known, read⟩ := reads item inside
      have last : textColumn layout (outer ++ [level]) = level.member := by
        rw [textColumn, List.getLast?_concat]; rfl
      have there : name ∈ below.outputs := by
        rw [Select.outputs, handed]
        rw [readable, last] at known
        simp only [List.map_append, List.mem_cons, List.mem_append, List.map_cons, List.map_nil,
          List.map_map, List.not_mem_nil, or_false] at known ⊢
        rcases known with isName | isMember | among | own
        · exact .inl (.inl isName)
        · exact .inr (.inl isMember)
        · exact .inl (.inr among)
        · exact .inr (.inr own)
      exact ⟨name, there, read⟩
    · refine ih sourced.outer ?_
      intro item inside
      rw [handed, unnested] at inside
      rcases List.mem_append.mp inside with given | own
      · exact handed_reads item given
      · have text := textColumn_mem_readable layout outer
        rcases List.mem_cons.mp own with rfl | own
        · exact ⟨_, text, .member _ _⟩
        · rw [List.mem_singleton.mp own]
          exact ⟨_, text, .position _ _⟩

end ChangelogViews.Sql
