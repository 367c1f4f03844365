import ChangelogViews.Error
import ChangelogViews.Sql.Template

/-!
# Dialects

What differs between databases: how a declared type is taken out of a JSON text, how names and
tables are spelled, and how an array becomes rows.
-/

namespace ChangelogViews.Sql

/-- `unnest_style`. -/
inductive UnnestStyle where
  /-- UNNEST in the FROM clause with an ordinal. -/
  | crossJoin
  /-- `unnest()` in nested sub-selects. -/
  | selectList
  | other (name : String)
  deriving DecidableEq, Repr

namespace UnnestStyle

def name : UnnestStyle → String
  | .crossJoin => "cross_join"
  | .selectList => "select_list"
  | .other name => name

def ofName (name : String) : UnnestStyle :=
  if name = "cross_join" then .crossJoin
  else if name = "select_list" then .selectList
  else .other name

end UnnestStyle

/-- `ResolvedColumn`. The suffix is added to the path of the field. -/
structure ColumnRule where
  suffix : List String
  sqlType : String
  template : Template
  deriving DecidableEq, Repr

/-- `_single`. -/
def singleColumn (sqlType : String) (template : Template) : List ColumnRule :=
  [⟨[], sqlType, template⟩]

/-- The columns of a geopoint, each from the template for a member of the point. The members are written with
an underscore before their names or without one. -/
def coordinates (sqlType : String) (number : String → Template) : List ColumnRule :=
  ["latitude", "longitude"].map fun axis =>
    ⟨[axis], sqlType, .coalesce [number s!"._{axis}", number s!".{axis}"]⟩

/-- How identifiers, tables and arrays are written: `quote`, `table_ref` and `extract_array`. -/
structure Spelling where
  quote : String → String
  tableRef : (project dataset table : String) → String
  extractArray : (source path : String) → String

/-- `SqlDialect`. -/
structure Dialect where
  name : String
  style : UnnestStyle
  rules : FieldKind → Option (List ColumnRule)
  spelling : Option Spelling

namespace Dialect

def spelled (d : Dialect) : Except SqlFault Spelling :=
  match d.spelling with
  | some spelling => .ok spelling
  | none => .error .unspelled

/-- `resolve`. Maps and arrays have no rule, since they are flattened. -/
def resolve (d : Dialect) (subject : TypeSubject) : Except ViewError (List ColumnRule) :=
  let kind? : Option FieldKind := match subject with
    | .known kind => some kind
    | .value (.text name) => name.whole?.bind FieldKind.ofName?
    | .value _ => none
  match kind? with
  | some .map => .error (.of (.unsupported subject .flattened))
  | some .array => .error (.of (.unsupported subject .flattened))
  | some kind =>
    match d.rules kind with
    | some rules => .ok rules
    | none => .error (.of (.unsupported subject (.noRule d.name)))
  | none => .error (.of (.unsupported subject (.noRule d.name)))

/-- The base class, which spells nothing and resolves no type. -/
def bare : Dialect := ⟨"", .other "", fun _ => none, none⟩

end Dialect

/-- `json_path`. -/
def jsonPath (parts : List String) : String :=
  "$" ++ String.join (parts.map ("." ++ ·))

/-- Writes a character twice wherever it stands. -/
def doubled (mark : Char) (s : String) : String :=
  String.ofList (s.toList.flatMap fun c => if c = mark then [c, c] else [c])

/-- `_literal`. -/
def literal (s : String) : String := "'" ++ doubled '\'' s ++ "'"

end ChangelogViews.Sql
