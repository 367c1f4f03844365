import ChangelogViews.Config.Sources
import ChangelogViews.Text.Lowercase

/-!
# Arguments of a call

A call gives settings by name, unless told otherwise in any case, and may also tell how the other
sources are read: which files hold variables, and how variables are named.
-/

namespace ChangelogViews

/-- Keyword arguments of a call, in order. -/
abbrev Arguments := List (String × Value)

namespace Arguments

def setting? (arguments : Arguments) (name : String) : Option Value :=
  (arguments.find? fun (given, _) => Text.lower given == name).map (·.2)

/-- The settings among the arguments, whose names count in any case. Other names are ignored. -/
def layer (arguments : Arguments) : Layer where
  projectName := (Layer.ofMembers arguments).projectName
  projectId := Layer.projectNames.findSome? fun name => arguments.setting? (Text.lower name)
  bigQueryProjectId := arguments.setting? "bigquery_project_id"
  datasetId := arguments.setting? "dataset_id"
  tablePrefix := arguments.setting? "table_name_prefix"
  schemaFiles := arguments.setting? "schema_files"
  backend := arguments.setting? "backend"
  duckDbPath := arguments.setting? "duckdb_path"
  changelog := arguments.setting? "changelog"

def given? (arguments : Arguments) (name : String) : Option Value :=
  match member? arguments name with
  | some .null => none
  | given => given

def affirms (arguments : Arguments) (name : String) : Bool :=
  (arguments.given? name).any Value.isYes

/-- The `env_prefix`, or something else that has a length but that no name can begin with. -/
def start (arguments : Arguments) : Except RuleFault (String ⊕ Value) :=
  match arguments.given? "_env_prefix" with
  | none => .ok (.inl ({} : VariableRules).start)
  | some (.text start) => .ok (.inl start.shown)
  | some (.list items) => .ok (.inr (.list items))
  | some (.object members) => .ok (.inr (.object members))
  | some v => .error (.noLength v)

/-- The limit that `env_nested_max_split` sets. The argument counts the names on the way, and without a number
above zero there is no limit. -/
def mostMarks (arguments : Arguments) : Except RuleFault (Option Nat) :=
  match (arguments.given? "_env_nested_max_split").filter Value.isYes with
  | none => .ok none
  | some (.int n) => .ok (if 0 < n then some (n.toNat - 1) else none)
  | some (.bool _) => .ok (some 0)
  | some (.real _) => .ok none
  | some v => .error (.noDifference v)

/-- The `env_nested_delimiter`, with its kind if it is no text. -/
def memberMark (arguments : Arguments) : String × Option String :=
  match arguments.given? "_env_nested_delimiter" with
  | none => (({} : VariableRules).memberMark, none)
  | some (.text mark) => (mark.shown, none)
  | some v => if v.isYes then (v.shown, some v.kindName) else ("", none)

/-- Which names of variables have the prefix: those of settings, and those that a project has of its own. -/
def started (arguments : Arguments) : Bool × Bool :=
  match arguments.given? "_env_prefix_target" with
  | none => (true, false)
  | some target =>
    (target == .text "variable" || target == .text "all",
      target == .text "alias" || target == .text "all")

/-- The first setting with a name that cannot be built. -/
def unnamed (started : Bool × Bool) : Option String :=
  match started with
  | (_, true) => some "project_id"
  | (true, false) => Layer.settingNames.head?
  | (false, false) => none

def rules (arguments : Arguments) : Except RuleFault SourceRules := do
  let mostMarks ← arguments.mostMarks
  let start ← arguments.start
  let started := arguments.started
  let badStart := start.getRight?
  return {
    variableRules := {
      start := start.getLeft?.getD ""
      startsSettings := started.1
      startsProjects := started.2
      memberMark := arguments.memberMark.1
      markKind := arguments.memberMark.2
      mostMarks
      keepsCase := arguments.affirms "_case_sensitive"
      ignoresEmpty := arguments.affirms "_env_ignore_empty"
      nullText := (arguments.given? "_env_parse_none_str").bind Value.text?
      namesBackends := arguments.affirms "_env_parse_enums" }
    envFiles := (member? arguments "_env_file").getD ({} : SourceRules).envFiles
    depth := (arguments.given? "_env_file_depth").getD ({} : SourceRules).depth
    badStart
    encoding := (arguments.given? "_env_file_encoding").getD .null
    unnamed := if badStart.isSome then unnamed started else none
    secrets := (arguments.given? "_secrets_dir").getD .null
    words := (arguments.given? "_cli_parse_args").getD .null }

/-- `SchemaViewsConfig` called with these arguments. -/
def config (arguments : Arguments) (s : Sources) : List LogEntry × Except ConfigFault Config :=
  match arguments.rules with
  | .error fault => ([], .error (.rule fault))
  | .ok rules => s.config rules arguments.layer

end Arguments
end ChangelogViews
