import ChangelogViews.Sql.ChangelogLayout
import ChangelogViews.Sql.Dialect
import ChangelogViews.Sql.Select

/-!
# The queries of the views

Over the raw changelog lies a snapshot with one live row for each document, over the snapshot a view
with typed columns, and beside it one view for each array with a row for each element.
-/

namespace ChangelogViews

/-- `Column`: its name is the dotted path of the field, and its label the alias. -/
structure Column where
  name : String
  label : String
  expression : String
  sqlType : String
  deriving DecidableEq, Inhabited, Repr

/-- `UnnestLevel`. -/
structure UnnestLevel where
  source : String
  jsonPath : String
  member : String
  index : String
  deriving DecidableEq, Repr

namespace Sql

/-- `RANK_COLUMN`. -/
def rankColumn : String := "changelog_rank"

/-- `_column_items`. -/
def columnItems (columns : List Column) : List Item :=
  columns.map fun column => .computed column.expression column.label

def rankedWrites (spelling : Spelling) (changelog : String) (layout : ChangelogLayout) : Select :=
  let q := spelling.quote
  let rank := s!"ROW_NUMBER() OVER (PARTITION BY {q layout.documentName} " ++
    s!"ORDER BY {q layout.timestamp} DESC, {q layout.sequence} DESC)"
  .fromTable (layout.snapshotColumns.map .column ++ [.computed rank rankColumn]) changelog []

/-- `latest_snapshot_sql`. -/
def snapshotQuery (spelling : Spelling) (changelog : String) (layout : ChangelogLayout) : Select :=
  let q := spelling.quote
  .fromQuery (layout.snapshotColumns.map .column) (rankedWrites spelling changelog layout) "ranked"
    [s!"WHERE {q rankColumn} = 1",
     s!"{margin}AND {q layout.operation} IS DISTINCT FROM {literal layout.deleteOperation}"]

/-- `typed_view_sql`. -/
def typedQuery (snapshot : String) (layout : ChangelogLayout) (columns : List Column) : Select :=
  .fromTable (.column layout.documentName :: columnItems columns) snapshot []

/-- The select list of a child view: the document path, the ordinal of each level from the outermost on, and
the columns. -/
def childItems (layout : ChangelogLayout) (levels : List UnnestLevel) (columns : List Column) :
    List Item :=
  .column layout.documentName :: levels.map (.column ·.index) ++ columnItems columns

def joinClause (spelling : Spelling) (level : UnnestLevel) : String :=
  s!"CROSS JOIN UNNEST({spelling.extractArray level.source level.jsonPath}) " ++
    s!"AS {spelling.quote level.member} WITH OFFSET AS {spelling.quote level.index}"

/-- The select list of the sub-select that unnests `level` inside the levels `outer`. -/
def levelItems (spelling : Spelling) (layout : ChangelogLayout) (outer : List UnnestLevel)
    (level : UnnestLevel) : List Item :=
  let array := spelling.extractArray level.source level.jsonPath
  .column layout.documentName :: outer.map (.column ·.index) ++
    [.computed s!"unnest({array})" level.member,
     .computed s!"unnest(range(len({array})))" level.index]

/-- The items over one sub-select for each level, given from the innermost level outwards. -/
def overLevels (spelling : Spelling) (snapshot : String) (layout : ChangelogLayout)
    (items : List Item) : (levels : List UnnestLevel) → Select
  | [] => .fromTable items snapshot []
  | level :: outer =>
    .fromQuery items
      (overLevels spelling snapshot layout (levelItems spelling layout outer.reverse level) outer)
      (level.member ++ "_rows") []

/-- `child_view_sql`. -/
def childQuery (d : Dialect) (snapshot : String) (layout : ChangelogLayout)
    (levels : List UnnestLevel) (columns : List Column) : Except SqlFault Select :=
  match levels with
  | [] => .error .noLevels
  | _ :: _ => do
    let spelling ← d.spelled
    let items := childItems layout levels columns
    match d.style with
    | .crossJoin => return .fromTable items snapshot (levels.map (joinClause spelling))
    | .selectList => return overLevels spelling snapshot layout items levels.reverse
    | .other style => throw (.unknownStyle d.name style)

/-- `create_view_statement`. -/
def createStatement (view query : String) : String :=
  s!"CREATE OR REPLACE VIEW {view} AS\n{query}"

end Sql
end ChangelogViews
