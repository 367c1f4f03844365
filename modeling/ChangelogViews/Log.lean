/-!
# The log

What is worth telling while views are made, and which of it is written where. Until the log is
enabled only warnings and worse are shown, without a name in front.
-/

namespace ChangelogViews

inductive Level where
  | debug
  | info
  | warning
  | error
  | critical
  deriving DecidableEq, Repr

namespace Level

def name : Level → String
  | .debug => "DEBUG"
  | .info => "INFO"
  | .warning => "WARNING"
  | .error => "ERROR"
  | .critical => "CRITICAL"

def all : List Level := [.debug, .info, .warning, .error, .critical]

/-- The level of a name, two of which also have another. -/
def ofName? (name : String) : Option Level :=
  match name with
  | "WARN" => some .warning
  | "FATAL" => some .critical
  | _ => all.find? (·.name == name)

/-- The level that a threshold of some name is. One that is not set is what holds anyway. -/
def ofThresholdName? (name : String) : Option Level :=
  if name = "NOTSET" then some .warning else ofName? name

def rank : Level → Nat
  | .debug => 1
  | .info => 2
  | .warning => 3
  | .error => 4
  | .critical => 5

def reaches (level threshold : Level) : Bool := Nat.ble threshold.rank level.rank

end Level

structure LogEntry where
  logger : String
  level : Level
  message : String
  deriving DecidableEq, Repr

namespace LogEntry

/-- The logger that `enable_logging` sets up, the parent of all loggers of the program. -/
def tree : String := "FirestoreViews"

def ofLoader (level : Level) (message : String) : LogEntry :=
  ⟨tree ++ ".schema.loader", level, message⟩

def ofFactory (level : Level) (message : String) : LogEntry :=
  ⟨tree ++ ".compiler.factory", level, message⟩

def ofBigQuery (level : Level) (message : String) : LogEntry :=
  ⟨tree ++ ".infra.db.bigquery_views", level, message⟩

def ofDuckDb (level : Level) (message : String) : LogEntry :=
  ⟨tree ++ ".infra.db.duckdb_views", level, message⟩

def inTree (entry : LogEntry) : Bool :=
  entry.logger == tree || (tree ++ ".").toList.isPrefixOf entry.logger.toList

end LogEntry

/-- The threshold of the tree, once its log was enabled. -/
structure Log where
  threshold : Option Level
  deriving DecidableEq, Repr

namespace Log

def silent : Log := ⟨none⟩

/-- `enable_logging`. Calling it again only moves the threshold. -/
def enable (_ : Log) (level : Level) : Log := ⟨some level⟩

def handlers (log : Log) : Nat := if log.threshold.isSome then 1 else 0

def write (log : Log) (entry : LogEntry) : String :=
  match log.threshold, entry.inTree with
  | some threshold, true =>
    if entry.level.reaches threshold then
      s!"{entry.logger} - {entry.level.name} - {entry.message}\n"
    else ""
  | _, _ => if entry.level.reaches .warning then entry.message ++ "\n" else ""

def writeAll (log : Log) (entries : List LogEntry) : String := String.join (entries.map log.write)

end Log
end ChangelogViews
