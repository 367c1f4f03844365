import ChangelogViews.Text.Lines

/-!
# Queries

The shape of the queries that views are made of: a list of columns read from a table or from another
query, with further clauses behind. The text of a query has one column a line, and an inner query
stands one step to the right of the one that reads it.
-/

namespace ChangelogViews.Sql

/-- `INDENT`. -/
def margin : String := "  "

/-- An item of a select list: a column that is read, or an expression under an alias. -/
inductive Item where
  | column (name : String)
  | computed (expression name : String)
  deriving DecidableEq, Repr

namespace Item

def name : Item → String
  | .column name => name
  | .computed _ name => name

def render (quote : String → String) : Item → String
  | .column name => quote name
  | .computed expression name => s!"{expression} AS {quote name}"

end Item

/-- A query over a table or over a sub-select with an alias. -/
inductive Select where
  | fromTable (items : List Item) (table : String) (clauses : List String)
  | fromQuery (items : List Item) (query : Select) (name : String) (clauses : List String)
  deriving DecidableEq, Repr

namespace Select

def items : Select → List Item
  | .fromTable items _ _ => items
  | .fromQuery items _ _ _ => items

/-- The aliases of the select list. -/
def outputs (q : Select) : List String := q.items.map Item.name

/-- `_select_list`. -/
def renderItems (quote : String → String) (items : List Item) : String :=
  ",\n".intercalate (items.map fun item => margin ++ item.render quote)

/-- The text of a query. A sub-select is indented as a whole. -/
def render (quote : String → String) : Select → String
  | .fromTable items table clauses =>
    "\n".intercalate (["SELECT", renderItems quote items, s!"FROM {table}"] ++ clauses)
  | .fromQuery items query name clauses =>
    "\n".intercalate
      (["SELECT", renderItems quote items, "FROM (", Text.indent margin (render quote query),
        s!") AS {quote name}"] ++ clauses)

end Select
end ChangelogViews.Sql
