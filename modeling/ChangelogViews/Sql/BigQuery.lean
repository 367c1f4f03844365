import ChangelogViews.Sql.Dialect

/-!
# BigQuery

Types, names and arrays in the standard SQL of BigQuery. A table is named by one quoted identifier
that holds project, dataset and table.
-/

namespace ChangelogViews.Sql.BigQuery

/-- The backtick around an identifier. -/
def mark : Char := Char.ofNat 0x60

/-- `quote`: an identifier between backticks; one inside it follows a backslash. -/
def quote (identifier : String) : String :=
  String.ofList (mark :: identifier.toList.flatMap (fun c => if c = mark then ['\\', c] else [c])
    ++ [mark])

def scalar (member : String) : Template := .extract "JSON_EXTRACT_SCALAR" member

def safeCast (member sqlType : String) : Template := .cast "SAFE_CAST" (scalar member) sqlType

/-- A timestamp written as text, as an object of seconds and nanoseconds, or as seconds. -/
def timestamp : Template := .coalesce [
  safeCast "" "TIMESTAMP",
  .within "SAFE.TIMESTAMP_MICROS(SAFE_ADD(SAFE_MULTIPLY("
    (safeCast "._seconds" "INT64" ++
      .within ", 1000000), DIV(IFNULL(" (safeCast "._nanoseconds" "INT64") ", 0), 1000)")
    "))",
  .within "SAFE.TIMESTAMP_MILLIS(SAFE_CAST(SAFE_MULTIPLY(" (safeCast "" "FLOAT64")
    ", 1000) AS INT64))"]

/-- `resolutions`. -/
def rules : FieldKind → Option (List ColumnRule)
  | .string => some (singleColumn "STRING" (scalar ""))
  | .number => some (singleColumn "FLOAT64" (safeCast "" "FLOAT64"))
  | .boolean => some (singleColumn "BOOL" (safeCast "" "BOOL"))
  | .timestamp => some (singleColumn "TIMESTAMP" timestamp)
  | .geopoint => some (coordinates "FLOAT64" fun member => safeCast member "FLOAT64")
  | .reference => some (singleColumn "STRING" (scalar ""))
  | .null => some (singleColumn "STRING" (.fixed "CAST(NULL AS STRING)"))
  | .stringifiedMap => some (singleColumn "STRING" (.extract "JSON_EXTRACT" ""))
  | .map => none
  | .array => none

def spelling : Spelling where
  quote := quote
  tableRef project dataset table := quote s!"{project}.{dataset}.{table}"
  extractArray source path := s!"JSON_EXTRACT_ARRAY({source}, '{path}')"

def dialect : Dialect := ⟨"bigquery", .crossJoin, rules, some spelling⟩

end ChangelogViews.Sql.BigQuery
