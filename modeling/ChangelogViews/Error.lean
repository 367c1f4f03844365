import ChangelogViews.Schema.FieldType
import ChangelogViews.Document.Issue
import ChangelogViews.Document.ReadFault

/-!
# Errors

An error is a cause together with its context: schema name, view name and field path. Context is
filled in on the way out, and values that are known already stay.
-/

namespace ChangelogViews

/-- The context of an error, as far as it is known. -/
structure Context where
  schema : Option String
  view : Option String
  field : Option String
  deriving DecidableEq, Inhabited, Repr

namespace Context

def unknown : Context := ⟨none, none, none⟩

/-- A value that is there and not empty. -/
def isNamed (place : Option String) : Bool :=
  match place with
  | some s => s ≠ ""
  | none => false

def fill (known given : Option String) : Option String := if isNamed known then known else given

/-- `add_context`: the values of `given` fill in what is not known yet. -/
def add (known given : Context) : Context :=
  ⟨fill known.schema given.schema, fill known.view given.view, fill known.field given.field⟩

def parts (context : Context) : List String :=
  [("schema=", context.schema), ("view=", context.view), ("field=", context.field)].filterMap
    fun (label, place) => if isNamed place then place.map (label ++ ·) else none

end Context

/-- The causes of `InvalidSchemaStructure`. -/
inductive Malformation where
  | described (message : String)
  | badPrefix (given : Option String)
  | badSchemaName (given : Option String)
  | badFieldName (name : LooseText)
  | duplicateField (name : LooseText)
  | mapWithElement
  | arrayWithBoth
  | nestedBelow (type : LooseText)
  | labelReserved (label : String)
  | labelTaken (label owner : String)
  | viewTwice (view : String)
  | viewShared (view first second : String)
  deriving DecidableEq, Repr

def shownName : Option String → String
  | some name => Text.quoted name
  | none => "None"

def wordRule (label : String) (given : Option String) : String :=
  s!"The {label} {shownName given} must only contain letters, digits or underscores"

def Malformation.message : Malformation → String
  | .described message => message
  | .badPrefix given => wordRule "table name prefix" given
  | .badSchemaName given => wordRule "schema name" given
  | .badFieldName name => s!"Field name {name.quoted} is not a valid column identifier"
  | .duplicateField name => s!"Duplicate field name {name.quoted}"
  | .mapWithElement => "A map field cannot declare an element"
  | .arrayWithBoth => "An array field cannot declare both an element and fields"
  | .nestedBelow type => s!"Field of type {type.quoted} cannot declare nested fields"
  | .labelReserved label => s!"Column {Text.quoted label} collides with a reserved column"
  | .labelTaken label owner => s!"Column {Text.quoted label} collides with field {Text.quoted owner}"
  | .viewTwice view => s!"View name {Text.quoted view} is generated twice"
  | .viewShared view first second =>
    s!"View name {Text.quoted view} is generated by schemas {Text.quoted first} and " ++
      Text.quoted second

/-- The type of an `UnsupportedFieldType`: a kind, or a value that names none. -/
inductive TypeSubject where
  | known (kind : FieldKind)
  | value (v : Value)
  deriving Repr

namespace TypeSubject

def name : TypeSubject → LooseText
  | .known kind => kind.name
  | .value v => v.plain

def shown : TypeSubject → String
  | .known kind => kind.shown
  | .value v => v.shown

def ofType : FieldType → TypeSubject
  | .known kind => .known kind
  | .other name => .value (.text name)

end TypeSubject

/-- Why the dialect resolves a type to no column. -/
inductive NoColumn where
  | described (message : Option String)
  | flattened
  | noRule (dialect : String)
  deriving DecidableEq, Repr

def NoColumn.message (subject : TypeSubject) : NoColumn → String
  | .described (some message) =>
    if message = "" then s!"Unsupported field type: {subject.shown}" else message
  | .described none => s!"Unsupported field type: {subject.shown}"
  | .flattened =>
    s!"Field type {subject.name.quoted} is flattened, not resolved to a column"
  | .noRule dialect =>
    s!"Unsupported field type {subject.name.quoted} for dialect {dialect}"

/-- The causes of `SchemaLoadError`. -/
inductive Unloaded where
  | described (message : String)
  | unreadable (path : String) (fault : ReadFault)
  | noSchema (path : String) (issues : List Issue)
  deriving DecidableEq, Repr

def Unloaded.message : Unloaded → String
  | .described message => message
  | .unreadable path fault => s!"Cannot read schema file {path}: {fault.message}"
  | .noSchema path _ => s!"Schema file {path} is not a valid schema: {omittedDetails}"

/-- The causes of `ViewCreationFailed`. -/
inductive Rejection where
  | described (message : String)
  | notAView (id kind : String)
  | byBigQuery (id reason : String)
  | byDuckDb (dataset view reason : String)
  deriving DecidableEq, Repr

def Rejection.message : Rejection → String
  | .described message => message
  | .notAView id kind => s!"{id} exists as {kind}, not a view"
  | .byBigQuery id reason => s!"BigQuery rejected view {id}: {reason}"
  | .byDuckDb dataset view reason => s!"DuckDB rejected view {dataset}.{view}: {reason}"

inductive Cause where
  | general (message : String)
  | malformed (problem : Malformation)
  | unsupported (subject : TypeSubject) (reason : NoColumn)
  | unloaded (problem : Unloaded)
  | rejected (problem : Rejection) (statement : Option String)
  | noManager (described : Option String)
  deriving Repr

def Cause.message : Cause → String
  | .general message => message
  | .malformed problem => problem.message
  | .unsupported subject reason => reason.message subject
  | .unloaded problem => problem.message
  | .rejected problem _ => problem.message
  | .noManager (some message) => message
  | .noManager none => "No view manager configured to install views with"

/-- `FirestoreViewsError`. -/
structure ViewError where
  cause : Cause
  context : Context
  deriving Repr

namespace ViewError

def of (cause : Cause) : ViewError := ⟨cause, .unknown⟩

def atField (problem : Malformation) (path : String) : ViewError :=
  ⟨.malformed problem, ⟨none, none, some path⟩⟩

def addContext (e : ViewError) (given : Context) : ViewError :=
  { e with context := e.context.add given }

def message (e : ViewError) : String := e.cause.message

/-- The message of an error, and behind it the context that is known. -/
def text (e : ViewError) : String :=
  match e.context.parts with
  | [] => e.message
  | parts => e.message ++ " (" ++ ", ".intercalate parts ++ ")"

end ViewError

/-- A part that a dialect misses. -/
inductive SqlFault where
  | unspelled
  | noLevels
  | unknownStyle (dialect style : String)
  deriving DecidableEq, Repr

def SqlFault.message : SqlFault → String
  | .unspelled => ""
  | .noLevels => "child_view_sql requires at least one unnest level"
  | .unknownStyle dialect style =>
    s!"Dialect {Text.quoted dialect} has unknown unnest style {Text.quoted style}"

/-- An error outside the family, by its class and message. -/
structure Foreign where
  kind : String
  message : String
  deriving DecidableEq, Repr

namespace Foreign

def noHome : Foreign := ⟨"RuntimeError", "Could not determine home directory."⟩

def nullInName : Foreign := ⟨"ValueError", "embedded null byte"⟩

def ofPath (fault : FileFault) : Foreign :=
  let kind := match fault with
    | .notFound _ => "FileNotFoundError"
    | .isDirectory _ => "IsADirectoryError"
    | .notDirectory _ => "NotADirectoryError"
    | .tooLong _ => "OSError"
    | .nullInPath => "ValueError"
  ⟨kind, fault.message⟩

def tooDeep (message : String) : Foreign := ⟨"RecursionError", message⟩

end Foreign

/-- Everything that can stop the work. -/
inductive Failure where
  | views (error : ViewError)
  | sql (fault : SqlFault)
  | foreign (failure : Foreign)
  deriving Repr

end ChangelogViews
