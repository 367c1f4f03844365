import ChangelogViews.Config.Basic
import ChangelogViews.Text.Digits
import ChangelogViews.Text.Quoted

/-!
# Options

The options of a run and how they are read from the words of a command line. An option may be written
short or long, a long one also by any beginning that no other has, and short ones that take no operand
may share a dash.
-/

namespace ChangelogViews

inductive Purpose where
  | help
  | nonInteractive
  | project
  | bigQueryProject
  | dataset
  | tablePrefix
  | schemaFiles
  | backend
  | duckDbPath
  | dryRun
  | verbose
  deriving DecidableEq, Repr

/-- An option: its spellings, the name of its operand unless it takes none, the operands that are
allowed if not all are, and an explanation. -/
structure OptionForm where
  purpose : Purpose
  spellings : List String
  operand : Option String
  choices : List String
  explanation : String
  deriving DecidableEq, Repr

namespace OptionForm

def switch (purpose : Purpose) (spellings : List String) (explanation : String) : OptionForm :=
  ⟨purpose, spellings, none, [], explanation⟩

def taking (purpose : Purpose) (spellings : List String) (operand explanation : String) :
    OptionForm :=
  ⟨purpose, spellings, some operand, [], explanation⟩

def label (form : OptionForm) : String := "/".intercalate form.spellings

/-- `build_parser`. -/
def all : List OptionForm := [
  switch .help ["-h", "--help"] "show this help message and exit",
  switch .nonInteractive ["--non-interactive"]
    "Parse all input from command line flags instead of prompting the caller.",
  taking .project ["-P", "--project"] "PROJECT"
    "Firebase Project ID for project containing Cloud Firestore database.",
  taking .bigQueryProject ["-B", "--big-query-project"] "BIG_QUERY_PROJECT"
    "Google Cloud Project ID for BigQuery (can be the same as the Firebase project ID).",
  taking .dataset ["-d", "--dataset"] "DATASET"
    "The ID of the BigQuery dataset containing a raw Cloud Firestore document changelog.",
  taking .tablePrefix ["-t", "--table-name-prefix"] "TABLE_NAME_PREFIX"
    "A common prefix for the names of all views generated by this script.",
  taking .schemaFiles ["-f", "--schema-files"] "SCHEMA_FILES"
    "A collection of files from which to read schemas.",
  ⟨.backend, ["--backend"], some "\x7bbigquery,duckdb\x7d", Backend.all.map Backend.name,
    "Database to create the views in (default: bigquery)."⟩,
  taking .duckDbPath ["--duckdb-path"] "DUCKDB_PATH" "DuckDB database file for --backend duckdb.",
  switch .dryRun ["--dry-run"] "Print the CREATE VIEW statements instead of executing them.",
  switch .verbose ["-v", "--verbose"] "Enable debug logging."]

def spelled : List (String × OptionForm) :=
  all.flatMap fun form => form.spellings.map (·, form)

def ofSpelling? (spelling : String) : Option OptionForm := member? spelled spelling

def beginning (start : List Char) : List (String × OptionForm) :=
  spelled.filter fun (spelling, _) => start.isPrefixOf spelling.toList

end OptionForm

/-- What an option is given. Two dashes in the same word as the option are given up and leave
nothing. -/
inductive Operand where
  | text (s : String)
  | nothing
  deriving DecidableEq, Repr

namespace Operand

/-- What is written behind an option in the same word. -/
def attached (cs : List Char) : Operand :=
  if cs = ['-', '-'] then .nothing else .text (String.ofList cs)

def value : Operand → Value
  | .text s => .text s
  | .nothing => .list []

end Operand

/-- What the options of a run ask for. -/
structure Options where
  nonInteractive : Bool
  project : Option Operand
  bigQueryProject : Option Operand
  dataset : Option Operand
  tablePrefix : Option Operand
  schemaFiles : List Operand
  backend : Option Operand
  duckDbPath : Option Operand
  dryRun : Bool
  verbose : Bool
  deriving DecidableEq, Repr

/-- Why the words of a command line are refused. -/
inductive UsageFault where
  | ambiguous (word : String) (spellings : List String)
  | operandMissing (form : OptionForm)
  | operandUnwanted (form : OptionForm) (given : String)
  | notAmong (form : OptionForm) (given : String)
  | unrecognized (words : List String)
  deriving DecidableEq, Repr

def UsageFault.message : UsageFault → String
  | .ambiguous word spellings =>
    s!"ambiguous option: {word} could match " ++ ", ".intercalate spellings
  | .operandMissing form => s!"argument {form.label}: expected one argument"
  | .operandUnwanted form given =>
    s!"argument {form.label}: ignored explicit argument {Text.quoted given}"
  | .notAmong form given =>
    s!"argument {form.label}: invalid choice: {Text.quoted given} (choose from " ++
      ", ".intercalate (form.choices.map Text.quoted) ++ ")"
  | .unrecognized words => "unrecognized arguments: " ++ " ".intercalate words

/-- Why the options end a run before it begins. -/
inductive Ended where
  | help
  | fault (fault : UsageFault)
  deriving DecidableEq, Repr

namespace Options

def none : Options :=
  ⟨false, .none, .none, .none, .none, [], .none, .none, false, false⟩

/-- A word of a command line. Something may be attached to an option in the same word. -/
inductive Word where
  | operand (text : String)
  /-- Two dashes, behind which all words are operands. -/
  | rest
  | option (form : OptionForm) (short : Bool) (attached : Option (List Char))
  | unknown (text : String)
  deriving DecidableEq, Repr

def allDigits (cs : List Char) : Bool := cs.all Text.isDigit

/-- A number below zero, with or without a fraction. -/
def isNegative : List Char → Bool
  | '-' :: cs =>
    match cs.dropWhile Text.isDigit with
    | '.' :: fraction => !fraction.isEmpty && allDigits fraction
    | behind => behind.isEmpty && !cs.isEmpty
  | _ => false

def splitAtEquals (cs : List Char) : List Char × Option (List Char) :=
  match cs.dropWhile (· != '=') with
  | _ :: behind => (cs.takeWhile (· != '='), some behind)
  | [] => (cs, .none)

/-- The readings of a word as an option that is not spelled out, or has something attached. -/
def readings (cs : List Char) : List (String × Word) :=
  match cs with
  | '-' :: '-' :: _ =>
    let (start, behind) := splitAtEquals cs
    (OptionForm.beginning start).map fun (spelling, form) =>
      (spelling, .option form false behind)
  | dash :: c :: behind =>
    let spelling := String.ofList [dash, c]
    match OptionForm.ofSpelling? spelling with
    | some form => [(spelling, .option form true (some behind))]
    | .none => []
  | _ => []

/-- A word that begins with a dash and is more than that. -/
def dashedWord (text : String) : Except UsageFault Word :=
  let cs := text.toList
  let short := cs.tail.head? != some '-'
  match OptionForm.ofSpelling? text with
  | some form => .ok (.option form short .none)
  | .none =>
    let (start, behind) := splitAtEquals cs
    match OptionForm.ofSpelling? (String.ofList start), behind with
    | some form, some given => .ok (.option form short (some given))
    | _, _ =>
      match readings cs with
      | [(_, word)] => .ok word
      | [] =>
        if isNegative (NameRule.beforeFeed cs) || cs.contains ' ' then .ok (.operand text)
        else .ok (.unknown text)
      | several => .error (.ambiguous text (several.map (·.1)))

/-- The meaning of each word. -/
def wordsOf : List String → Except UsageFault (List Word)
  | [] => .ok []
  | text :: rest =>
    if text = "--" then .ok (.rest :: rest.map .operand)
    else do
      let word ← match text.toList with
        | '-' :: _ :: _ => dashedWord text
        | _ => .ok (.operand text)
      return word :: (← wordsOf rest)

abbrev Use := OptionForm × Option Operand

/-- The options that one word uses, where the last may still want its operand. -/
structure Bundle where
  uses : List Use
  wanting : Option OptionForm
  deriving DecidableEq, Repr

def single (form : OptionForm) : Bundle :=
  match form.operand with
  | .none => ⟨[(form, .none)], .none⟩
  | some _ => ⟨[], some form⟩

def Bundle.after (b : Bundle) (form : OptionForm) : Bundle :=
  { b with uses := (form, .none) :: b.uses }

/-- An option with `attached` behind it, which is its operand, or more options behind the same
dash. -/
def bundle (form : OptionForm) (short : Bool) (attached : List Char) : Except UsageFault Bundle :=
  match form.operand, short, attached with
  | some _, _, attached => .ok ⟨[(form, some (.attached attached))], .none⟩
  | .none, true, c :: behind =>
    match OptionForm.ofSpelling? (String.ofList ['-', c]) with
    | some next =>
      let later := if behind.isEmpty then .ok (single next) else bundle next true behind
      later.map (·.after form)
    | .none => .error (.operandUnwanted form (String.ofList (c :: behind)))
  | .none, _, attached => .error (.operandUnwanted form (String.ofList attached))

/-- The operand that is none of the choices of an option. -/
def refused? (form : OptionForm) : Option Operand → Option String
  | some (.text s) => if form.choices.isEmpty || form.choices.contains s then .none else some s
  | _ => .none

def use (o : Options) : Use → Except Ended Options
  | (form, given) =>
    match refused? form given with
    | some text => .error (.fault (.notAmong form text))
    | .none =>
      match form.purpose with
      | .help => .error .help
      | .nonInteractive => .ok { o with nonInteractive := true }
      | .project => .ok { o with project := given }
      | .bigQueryProject => .ok { o with bigQueryProject := given }
      | .dataset => .ok { o with dataset := given }
      | .tablePrefix => .ok { o with tablePrefix := given }
      | .schemaFiles => .ok { o with schemaFiles := o.schemaFiles ++ given.toList }
      | .backend => .ok { o with backend := given }
      | .duckDbPath => .ok { o with duckDbPath := given }
      | .dryRun => .ok { o with dryRun := true }
      | .verbose => .ok { o with verbose := true }

def useAll (o : Options) (uses : List Use) : Except Ended Options := uses.foldlM use o

def orEnded {α : Type} : Except UsageFault α → Except Ended α
  | .ok a => .ok a
  | .error fault => .error (.fault fault)

/-- The options after some words. Words that belong to no option are gathered in `extra`. -/
def readWords (o : Options) (extra : List String) : List Word → Except Ended Options
  | [] => if extra.isEmpty then .ok o else .error (.fault (.unrecognized extra))
  | .operand text :: rest => readWords o (extra ++ [text]) rest
  | .rest :: rest => readWords o (extra ++ ["--"]) rest
  | .unknown text :: rest => readWords o (extra ++ [text]) rest
  | .option form short attached :: rest => do
    let found ← match attached with
      | .none => pure (single form)
      | some cs => orEnded (bundle form short cs)
    match found.wanting, rest with
    | .none, rest =>
      let o ← o.useAll found.uses
      readWords o extra rest
    | some wanting, .operand text :: rest =>
      let o ← o.useAll (found.uses ++ [(wanting, some (.text text))])
      readWords o extra rest
    | some wanting, _ => .error (.fault (.operandMissing wanting))

/-- `parse_args`. -/
def read (words : List String) : Except Ended Options := do
  readWords .none [] (← orEnded (wordsOf words))

/-- `_overrides`. -/
def layer (o : Options) : Layer where
  projectId := o.project.map Operand.value
  bigQueryProjectId := o.bigQueryProject.map Operand.value
  datasetId := o.dataset.map Operand.value
  tablePrefix := o.tablePrefix.map Operand.value
  schemaFiles := if o.schemaFiles.isEmpty then .none else some (.list (o.schemaFiles.map Operand.value))
  backend := o.backend.map Operand.value
  duckDbPath := o.duckDbPath.map Operand.value
  changelog := .none

end Options
end ChangelogViews
