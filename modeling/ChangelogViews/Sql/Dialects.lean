import ChangelogViews.Sql.BigQuery
import ChangelogViews.Sql.DuckDb
import ChangelogViews.Text.Lowercase

/-!
# The dialects by name

The dialects that are known, found by their names in any case.
-/

namespace ChangelogViews.Sql

/-- The shipped dialects, in the order of their names. -/
def dialects : List Dialect := [BigQuery.dialect, DuckDb.dialect]

structure UnknownDialect where
  name : String
  deriving DecidableEq, Repr

def UnknownDialect.message (e : UnknownDialect) : String :=
  let known := ", ".intercalate (dialects.map fun d => Text.quoted d.name)
  s!"Unknown SQL dialect {Text.quoted e.name}; expected one of [{known}]"

/-- `get_dialect`. -/
def Dialect.named (name : String) : Except UnknownDialect Dialect :=
  match dialects.find? (·.name == Text.lower name) with
  | some d => .ok d
  | none => .error ⟨name⟩

end ChangelogViews.Sql
