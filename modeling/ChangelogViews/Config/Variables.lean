import ChangelogViews.Config.Basic
import ChangelogViews.Document.Json
import ChangelogViews.Text.Lowercase

/-!
# Settings from variables

A variable gives a setting whose name it has, behind a common beginning and unless told otherwise in
any case. Lists and objects are written as JSON, and a variable may also give a single member of an
object.
-/

namespace ChangelogViews

/-- Variables by name. A variable of a file may have no value. -/
abbrev Variables := List (String × Option String)

/-- How variables are named and what they say. -/
structure VariableRules where
  /-- `env_prefix`. -/
  start : String := "FIRESTORE_VIEWS_"
  startsSettings : Bool := true
  startsProjects : Bool := false
  /-- `env_nested_delimiter`. Where it is empty no variable gives a member. -/
  memberMark : String := "__"
  /-- The kind of a delimiter that is no text, so that no name can be cut there. -/
  markKind : Option String := none
  /-- `env_nested_max_split`, `none` without a limit. -/
  mostMarks : Option Nat := none
  /-- `case_sensitive`. -/
  keepsCase : Bool := false
  /-- `env_ignore_empty`. -/
  ignoresEmpty : Bool := false
  /-- `env_parse_none_str`. -/
  nullText : Option String := none
  /-- `env_parse_enums`. -/
  namesBackends : Bool := false
  deriving DecidableEq, Repr

namespace VariableRules

def name (rules : VariableRules) (written : String) : String :=
  if rules.keepsCase then written else Text.lower written

def settingName (rules : VariableRules) (setting : String) : String :=
  rules.name (if rules.startsSettings then rules.start ++ setting else setting)

def projectNames (rules : VariableRules) : List String :=
  Layer.projectNames.map fun project =>
    rules.name (if rules.startsProjects then rules.start ++ project else project)

def value (rules : VariableRules) (text : String) : Value :=
  if rules.nullText = some text then .null else .text text

/-- The names on the way to a member. -/
def way (rules : VariableRules) (written : String) : List String :=
  let names := written.splitOn rules.memberMark
  match rules.mostMarks with
  | none => names
  | some most =>
    if names.length ≤ most then names
    else names.take most ++ [rules.memberMark.intercalate (names.drop most)]

end VariableRules

namespace Variables

/-- The variables under the names that they are known under, each name once. Of two variables with one
name only the later counts. -/
def known (rules : VariableRules) (vars : Variables) : Variables :=
  (vars.filter fun (_, given) => !(rules.ignoresEmpty && given == some "")).foldl
    (fun known (name, given) => setMember known (rules.name name) given) []

def text? (vars : Variables) (name : String) : Option String :=
  (member? vars name).join

def setting? (rules : VariableRules) (vars : Variables) (setting : String) : Option Value :=
  (vars.text? (rules.settingName setting)).map rules.value

def project? (rules : VariableRules) (vars : Variables) : Option Value :=
  (rules.projectNames.findSome? vars.text?).map rules.value

def backend? (rules : VariableRules) (vars : Variables) : Option Value :=
  (vars.text? (rules.settingName "backend")).map fun text =>
    match Backend.all.find? fun backend => rules.namesBackends && backend.capitals == text with
    | some backend => .text backend.name
    | none => rules.value text

/-- The members after the one that a way of names leads to was set. Where the way leads through
something that is no object nothing is set. -/
def setNested (members : List (String × Value)) (v : Value) : List String → List (String × Value)
  | [] => members
  | [name] => setMember members name v
  | name :: rest =>
    match member? members name with
    | none => setMember members name (.object (setNested [] v rest))
    | some (.object inner) => setMember members name (.object (setNested inner v rest))
    | some _ => members

/-- The member that a way of names leads to. -/
def nested? (members : List (String × Value)) : List String → Option Value
  | [] => none
  | [name] => member? members name
  | name :: rest =>
    match member? members name with
    | some (.object inner) => nested? inner rest
    | _ => none

/-- The members with one more that a variable gives. What is said to have no value takes the place of
nothing but an object without members. -/
def withMember (rules : VariableRules) (members : List (String × Value)) (way : List String)
    (given : Option String) : List (String × Value) :=
  match given.map rules.value, nested? members way with
  | none, _ => setNested members .null way
  | some .null, none => setNested members .null way
  | some .null, some (.object []) => setNested members .null way
  | some .null, some _ => members
  | some v, _ => setNested members v way

/-- Why variables give no settings: the value of one cannot be read, or the names that begin as those of
members do cannot be cut. -/
inductive Fault where
  | unparsed (setting : String) (reason : Json.Reason)
  | uncut (markKind : String)
  deriving DecidableEq, Repr

def memberStart (rules : VariableRules) (setting : String) : List Char :=
  (rules.settingName setting ++ rules.memberMark).toList

def forMembers (rules : VariableRules) (vars : Variables) (setting : String) : Variables :=
  let start := memberStart rules setting
  if rules.memberMark = "" then []
  else
    vars.filterMap fun (name, given) =>
      if start.isPrefixOf name.toList then
        some (String.ofList (name.toList.drop start.length), given)
      else none

/-- The members of a setting that variables of their own give. -/
def membersOf (rules : VariableRules) (vars : Variables) (setting : String) :
    Except Fault (List (String × Value)) :=
  match rules.markKind, vars.forMembers rules setting with
  | some kind, _ :: _ => .error (.uncut kind)
  | _, vars => .ok (vars.foldl (fun members (name, given) =>
      withMember rules members (rules.way name) given) [])

/-- The value of a setting that is written as JSON, with the members that are given on their own. -/
def written? (rules : VariableRules) (vars : Variables) (setting : String) :
    Except Fault (Option Value) := do
  match vars.text? (rules.settingName setting) with
  | none =>
    let single ← vars.membersOf rules setting
    return if single.isEmpty then none else some (.object single)
  | some text =>
    if rules.nullText = some text then return some .null
    match Json.read text.toList with
    | .error fault => throw (.unparsed setting fault.reason)
    | .ok .null => return none
    | .ok (.object members) =>
      return some (.object (membersCovered members (← vars.membersOf rules setting)))
    | .ok v => return some v

def layoutName (rules : VariableRules) (name : String) : String :=
  if !rules.keepsCase && ChangelogLayout.memberNames.contains (Text.lower name) then Text.lower name
  else name

def layoutMembers (rules : VariableRules) : Value → Value
  | .object members =>
    .object (members.foldl (fun known (name, v) => setMember known (layoutName rules name) v) [])
  | v => v

/-- The settings that variables give, each by a name that it is known under. -/
def layer (rules : VariableRules) (vars : Variables) : Except Fault Layer := do
  let known := vars.known rules
  let schemaFiles ← known.written? rules "schema_files"
  let changelog ← known.written? rules "changelog"
  return {
    projectId := known.project? rules
    bigQueryProjectId := known.setting? rules "bigquery_project_id"
    datasetId := known.setting? rules "dataset_id"
    tablePrefix := known.setting? rules "table_name_prefix"
    schemaFiles
    backend := known.backend? rules
    duckDbPath := known.setting? rules "duckdb_path"
    changelog := changelog.map (layoutMembers rules) }

def isUsed (rules : VariableRules) (name : String) : Bool :=
  (rules.projectNames ++ Layer.settingNames.map rules.settingName).contains name ||
    Layer.structuredNames.any fun setting => (memberStart rules setting).isPrefixOf name.toList

/-- A setting goes by this name without what the names of variables begin with. -/
def isBare (rules : VariableRules) (name : String) : Bool :=
  rules.start ≠ "" && ("project_id" :: Layer.settingNames).contains name

def bareName (rules : VariableRules) (name : String) : String :=
  let start := rules.name rules.start
  if start.toList.isPrefixOf name.toList then
    String.ofList (name.toList.drop rules.start.length)
  else name

/-- The texts of the variables that no setting has the name of, by their bare names. What some settings
are given under counts as known. -/
def others (rules : VariableRules) (vars : Variables) (given : List String) :
    List (String × Value) :=
  (vars.known rules).foldl (fun others (name, text) =>
    match text with
    | none => others
    | some text =>
      if text = "" || given.contains name || (member? others name).isSome || isBare rules name ||
          isUsed rules name then others
      else setMember others (bareName rules name) (.text text)) []

end Variables
end ChangelogViews
