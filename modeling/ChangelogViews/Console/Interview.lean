import ChangelogViews.Config.Sources
import ChangelogViews.Console.Options
import ChangelogViews.Console.Question

/-!
# The configuration of a run

The options give settings, and unless they forbid it every setting that names a target is asked for,
with what is known already as the fallback. The answers count more than the options.
-/

namespace ChangelogViews

namespace Question

def project (known : Option String) : Question :=
  ⟨"What is your Firebase project ID?", "project ID", some .segment, known⟩

def bigQueryProject (known : Option String) : Question :=
  ⟨"What is your Google Cloud Project ID for BigQuery? (can be the same as the Firebase project ID)",
    "BigQuery project ID", some .project, known⟩

def dataset (known : Option String) : Question :=
  ⟨"What is the ID of the BigQuery dataset the raw changelog lives in? " ++
    "(The dataset and the raw changelog must already exist!)",
    "dataset ID", some .word, known⟩

def tablePrefix (known : Option String) : Question :=
  ⟨"What is the name of the Cloud Firestore collection for which you want to generate a schema view?",
    "table name prefix", some .word, known⟩

def schemaFiles (known : List String) : Question :=
  ⟨"Where should this script look for schema definitions? " ++
    "(Enter a comma-separated list of, optionally globbed, paths to files or directories).",
    "schema files", none, some (",".intercalate known)⟩

end Question

def pathsIn (list : String) : List String :=
  ((list.splitOn ",").map Text.trim).filter (· ≠ "")

structure Answers where
  project : String
  bigQueryProject : String
  dataset : String
  tablePrefix : String
  schemaFiles : List String
  deriving DecidableEq, Repr

namespace Answers

/-- `ask_config`. Without a project for BigQuery the answer for the project is its default. -/
def ask (known : Config) : Asking Answers := do
  let project ← (Question.project known.projectId).ask
  let proposed :=
    if Config.isGiven known.bigQueryProjectId then known.bigQueryProjectId else some project
  let bigQueryProject ← (Question.bigQueryProject proposed).ask
  let dataset ← (Question.dataset known.datasetId).ask
  let tablePrefix ← (Question.tablePrefix known.tablePrefix).ask
  let files ← (Question.schemaFiles known.schemaFiles).ask
  return ⟨project, bigQueryProject, dataset, tablePrefix, pathsIn files⟩

def layer (a : Answers) : Layer where
  projectId := some (.text a.project)
  bigQueryProjectId := some (.text a.bigQueryProject)
  datasetId := some (.text a.dataset)
  tablePrefix := some (.text a.tablePrefix)
  schemaFiles := some (.list (a.schemaFiles.map fun path => .text (.ofString path)))

end Answers

/-- Why a run got no configuration. -/
inductive Unconfigured where
  | fault (fault : ConfigFault)
  | silence (silence : Silence)
  deriving Repr

structure Configuring where
  logs : List LogEntry
  shown : List Shown
  result : Except Unconfigured Config
  deriving Repr

def Configuring.settled : Except ConfigFault Config → Except Unconfigured Config
  | .ok config => .ok config
  | .error fault => .error (.fault fault)

/-- `parse_config`, where prompts are answered by the replies. -/
def Options.configure (o : Options) (sources : Sources) (replies : List Reply) : Configuring :=
  match sources.config {} o.layer with
  | (logs, .error fault) => ⟨logs, [], .error (.fault fault)⟩
  | (logs, .ok known) =>
    if o.nonInteractive then ⟨logs, [], .ok known⟩
    else
      match (Answers.ask known).run ⟨[], replies⟩ with
      | (.error silence, console) => ⟨logs, console.shown, .error (.silence silence)⟩
      | (.ok answers, console) =>
        let (more, result) := sources.config {} (o.layer.replacing answers.layer)
        ⟨logs ++ more, console.shown, Configuring.settled result⟩

end ChangelogViews
