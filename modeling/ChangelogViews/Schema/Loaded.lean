import ChangelogViews.Document.Yaml.Unfolded
import ChangelogViews.Error
import ChangelogViews.Files.View
import ChangelogViews.Log
import ChangelogViews.Schema.Reader

/-!
# Schemas from files

Each schema file holds one schema, whose name is the name of the file without its suffix. Patterns
say which files are read; a directory stands for the schema files in it. No file is read twice, and
of two files with one schema name the later counts.
-/

namespace ChangelogViews

/-- `SCHEMA_SUFFIXES`. -/
def schemaSuffixes : List String := [".json", ".yaml", ".yml"]

def isSchemaPath (p : Path) : Bool := schemaSuffixes.contains (Text.lower p.suffix)

def schemaFilesAmong (view : FileView) : List Path → Except Foreign (List Path)
  | [] => .ok []
  | p :: rest => do
    let isFile ← view.isFile p
    let later ← schemaFilesAmong view rest
    return if isFile && isSchemaPath p then p :: later else later

/-- The `candidates` of a path: a file itself, or the schema files in a directory, sorted. There are none
where neither is. -/
def candidates (view : FileView) (p : Path) : Except Foreign (Option (List Path)) := do
  if ← view.isDir p then
    let files ← schemaFilesAmong view (← view.iterdir p)
    return some (files.mergeSort Path.comesFirst)
  else if ← view.isFile p then return some [p]
  else return none

def filesAt (view : FileView) (text : String) : Except Foreign (Option (List Path)) := do
  match ← candidates view (.ofText text) with
  | some files => return some (← files.mapM view.resolve)
  | none => return none

/-- The files found so far, with what was logged meanwhile. -/
abbrev Expansion := List LogEntry × Except Foreign (List Path)

def Expansion.andThen (first : Expansion) (next : List Path → Expansion) : Expansion :=
  match first with
  | (logs, .error failure) => (logs, .error failure)
  | (logs, .ok found) => (logs ++ (next found).1, (next found).2)

def Expansion.each {α : Type} (step : α → List Path → Expansion) : List α → List Path → Expansion
  | [], found => ([], .ok found)
  | item :: rest, found => (step item found).andThen (each step rest)

/-- The paths with more of them behind, each once. -/
def union (paths more : List Path) : List Path :=
  more.foldl (fun done path => if done.contains path then done else done ++ [path]) paths

def nothingFound (pattern : String) : LogEntry :=
  .ofLoader .warning s!"No schema files match {pattern}"

def expandMatch (view : FileView) (pattern text : String) (found : List Path) : Expansion :=
  match filesAt view text with
  | .error failure => ([], .error failure)
  | .ok none => ([nothingFound pattern], .ok found)
  | .ok (some files) => ([], .ok (union found files))

/-- The sorted matches of a pattern, or the pattern where there are none. -/
def matchesOf (view : FileView) (pattern : String) : Except Foreign (List String) := do
  let expanded ← view.expandUser (.ofText pattern)
  let found ← view.glob expanded
  return if found.isEmpty then [expanded.text] else found.mergeSort fun a b => !decide (b < a)

def expandPattern (view : FileView) (written : String) (found : List Path) : Expansion :=
  let pattern := Text.trim written
  if pattern = "" then ([], .ok found)
  else
    match matchesOf view pattern with
    | .error failure => ([], .error failure)
    | .ok texts => Expansion.each (expandMatch view pattern) texts found

/-- `expand_schema_paths`. -/
def expandPatterns (view : FileView) (patterns : List String) : Expansion :=
  Expansion.each (expandPattern view) patterns []

def readText (t : FileTree) (path : Path) : Except ReadFault (List Char) :=
  match t.readBytes path with
  | .error fault => .error (.file fault)
  | .ok bytes =>
    match Text.decodeUtf8 bytes with
    | .error fault => .error (.encoding fault)
    | .ok text => .ok (Text.feedsOnly text)

def readDocument (t : FileTree) (path : Path) : Except ReadFault Value := do
  let text ← readText t path
  if [".yaml", ".yml"].contains (Text.lower path.suffix) then
    match Yaml.read text with
    | .ok v => return v
    | .error fault => throw (.yaml fault)
  else
    match Json.read text with
    | .ok v => return v
    | .error fault => throw (.json text fault)

def unloaded (path : Path) (problem : Unloaded) : ViewError :=
  ⟨.unloaded problem, ⟨some path.stem, none, none⟩⟩

/-- The error for a fault of a file. Only I/O errors, value errors and errors of the parser become
`SchemaLoadError`s; all others go on as they are. -/
def readFailure (path : Path) : ReadFault → Failure
  | .yaml (.notTruth word) => .foreign ⟨"KeyError", word.quoted⟩
  | .yaml .emptyNumber => .foreign ⟨"IndexError", "string index out of range"⟩
  | .yaml .notMoment =>
    .foreign ⟨"AttributeError", "'NoneType' object has no attribute 'groupdict'"⟩
  | .yaml .membersAsMoment =>
    .foreign ⟨"TypeError", "expected string or bytes-like object, got 'list'"⟩
  | .yaml .codeTooLarge => .foreign ⟨"OverflowError", "Python int too large to convert to C int"⟩
  | .yaml .numberTooLarge => .foreign ⟨"OverflowError", "int too large to convert to float"⟩
  | .yaml .tooDeep => .foreign (.tooDeep "maximum recursion depth exceeded")
  | .json text ⟨.tooDeep isArray, position⟩ =>
    .foreign (.tooDeep (Json.Fault.message text ⟨.tooDeep isArray, position⟩))
  | fault => .views (unloaded path (.unreadable path.text fault))

/-- `load_schema_file`. -/
def loadFile (t : FileTree) (path : Path) : Except Failure Schema :=
  match readDocument t path with
  | .error fault => .error (readFailure path fault)
  | .ok v =>
    match checkSchema v with
    | .ok schema => .ok schema
    | .error issues => .error (.views (unloaded path (.noSchema path.text issues)))

def redefined (path : Path) : LogEntry :=
  .ofLoader .warning s!"Schema {path.stem} redefined by {path.text}"

def loaded (path : Path) : LogEntry :=
  .ofLoader .debug s!"Loaded schema {path.stem} from {path.text}"

/-- The loop of `read_schemas`. The first file that does not load ends it. -/
def readFiles (t : FileTree) (schemas : List (String × Schema)) :
    List Path → List LogEntry × Except Failure (List (String × Schema))
  | [] => ([], .ok schemas)
  | path :: rest =>
    let again := if (member? schemas path.stem).isSome then [redefined path] else []
    match loadFile t path with
    | .error failure => (again, .error failure)
    | .ok schema =>
      let (logs, result) := readFiles t (setMember schemas path.stem schema) rest
      (again ++ loaded path :: logs, result)

/-- `read_schemas`. -/
def readSchemas (t : FileTree) (patterns : List String) :
    List LogEntry × Except Failure (List (String × Schema)) :=
  match expandPatterns t.view patterns with
  | (logs, .error failure) => (logs, .error (.foreign failure))
  | (logs, .ok paths) =>
    let (more, result) := readFiles t [] paths
    (logs ++ more, result)

end ChangelogViews
