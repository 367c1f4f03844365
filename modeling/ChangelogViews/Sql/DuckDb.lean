import ChangelogViews.Sql.Dialect

/-!
# DuckDB

Types, names and arrays in the SQL of DuckDB, over JSON kept as text. The dataset is a schema of the
database, and the project plays no part.
-/

namespace ChangelogViews.Sql.DuckDb

/-- `quote`: an identifier between double quotes, each one inside it written twice. -/
def quote (identifier : String) : String := "\"" ++ doubled '"' identifier ++ "\""

def scalar (member : String) : Template := .extract "json_extract_string" member

def tryCast (member sqlType : String) : Template := .cast "TRY_CAST" (scalar member) sqlType

/-- `MAX_EPOCH_SECONDS`. -/
def secondsLimit : String := "253402300800"

/-- `UTC_OFFSET_PATTERN`. -/
def offsetPattern : String :=
  "[0-9]:[0-9][0-9](:[0-9][0-9]([.][0-9]+)?)? ?([Zz]|[+-][0-9][0-9](:?[0-9][0-9])?)$"

/-- The second template where the number of the first lies within the limit. -/
def withinLimit (number result : Template) : Template :=
  .within "CASE WHEN abs(" number s!") < {secondsLimit} THEN " ++ result ++ .fixed " END"

/-- A timestamp written as text with an offset, as text without one, as an object of seconds and nanoseconds,
or as seconds. -/
def timestamp : Template := .coalesce [
  .within "CASE WHEN regexp_matches(" (scalar "") s!", '{offsetPattern}') THEN timezone('UTC', "
    ++ tryCast "" "TIMESTAMPTZ" ++ .fixed ") END",
  tryCast "" "TIMESTAMP",
  withinLimit (tryCast "._seconds" "BIGINT")
    (.within "epoch_ms((" (tryCast "._seconds" "BIGINT") " * 1000) + (COALESCE("
      ++ tryCast "._nanoseconds" "BIGINT" ++ .fixed ", 0) // 1000000))"),
  withinLimit (tryCast "" "DOUBLE")
    (.within "epoch_ms(CAST(" (tryCast "" "DOUBLE") " * 1000 AS BIGINT))")]

/-- `resolutions`. -/
def rules : FieldKind → Option (List ColumnRule)
  | .string => some (singleColumn "VARCHAR" (scalar ""))
  | .number => some (singleColumn "DOUBLE" (tryCast "" "DOUBLE"))
  | .boolean => some (singleColumn "BOOLEAN" (tryCast "" "BOOLEAN"))
  | .timestamp => some (singleColumn "TIMESTAMP" timestamp)
  | .geopoint => some (coordinates "DOUBLE" fun member => tryCast member "DOUBLE")
  | .reference => some (singleColumn "VARCHAR" (scalar ""))
  | .null => some (singleColumn "VARCHAR" (.fixed "CAST(NULL AS VARCHAR)"))
  | .stringifiedMap =>
    some (singleColumn "VARCHAR" (.cast "CAST" (.extract "json_extract" "") "VARCHAR"))
  | .map => none
  | .array => none

def spelling : Spelling where
  quote := quote
  tableRef _ dataset table := s!"{quote dataset}.{quote table}"
  extractArray source path := s!"TRY_CAST(json_extract({source}, '{path}') AS JSON[])"

def dialect : Dialect := ⟨"duckdb", .selectList, rules, some spelling⟩

end ChangelogViews.Sql.DuckDb
