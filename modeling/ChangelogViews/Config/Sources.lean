import ChangelogViews.Config.EnvFile
import ChangelogViews.Config.Variables
import ChangelogViews.Error
import ChangelogViews.Files.Tree
import ChangelogViews.Log
import ChangelogViews.Text.Encoding
import ChangelogViews.Text.Lines

/-!
# Where settings come from

Settings are given with the call, by the environment or by files of variables, and of these the
earlier one counts. All sources of variables have to be readable even where nothing is taken from
them.
-/

namespace ChangelogViews

structure Sources where
  environment : List (String × String)
  files : FileTree
  deriving Repr

inductive Origin where
  | environment
  | envFile
  deriving DecidableEq, Repr

def Origin.name : Origin → String
  | .environment => "EnvSettingsSource"
  | .envFile => "DotEnvSettingsSource"

/-- How the sources of variables are read. What may be wrong with a rule is found where it is used. -/
structure SourceRules where
  variableRules : VariableRules := {}
  /-- `env_file`: one path or many, of which later ones count more. -/
  envFiles : Value := .text ".env"
  /-- How many directories further out a file is looked for that is not there. -/
  depth : Value := .int 0
  /-- `env_file_encoding`. -/
  encoding : Value := .null
  /-- An `env_prefix` that no name can begin with. -/
  badStart : Option Value := none
  unnamed : Option String := none
  /-- `secrets_dir`. -/
  secrets : Value := .null
  /-- The arguments of a command line. Settings are not read from them, but they have to be a list or none. -/
  words : Value := .null
  deriving Repr

/-- What is wrong with a rule that a call gives. -/
inductive RuleFault where
  | noLength (v : Value)
  | noDifference (v : Value)
  | noOrder (v : Value)
  | notMany (v : Value)
  | noPath (v : Value)
  | noEncodingName (v : Value)
  | nullInEncodingName
  | halvesInEncodingName (name : LooseText)
  | unknownEncoding (name : String)
  | noTextEncoding (name : String)
  | noLowerCase (v : Value)
  | noStart (v : Value)
  | noMark (kind : String)
  deriving Repr

def RuleFault.message : RuleFault → String
  | .noLength v => s!"object of type '{v.kindName}' has no len()"
  | .noDifference v => s!"unsupported operand type(s) for -: '{v.kindName}' and 'int'"
  | .noOrder v => s!"'<=' not supported between instances of '{v.kindName}' and 'int'"
  | .notMany v => s!"'{v.kindName}' object is not iterable"
  | .noPath v => s!"expected str, bytes or os.PathLike object, not {v.kindName}"
  | .noEncodingName v => s!"open() argument 'encoding' must be str or None, not {v.kindName}"
  | .nullInEncodingName => "embedded null character"
  | .halvesInEncodingName name =>
    let start := name.start.length
    let place := match name.firstHalves with
      | [h] =>
        let sign := String.ofList (Sign.quoted '"' (.half h))
        s!"character '{sign}' in position {start}"
      | halves => s!"characters in position {start}-{start + halves.length - 1}"
    s!"'utf-8' codec can't encode {place}: surrogates not allowed"
  | .unknownEncoding name => s!"unknown encoding: {name}"
  | .noTextEncoding name =>
    s!"'{name}' is not a text encoding; use codecs.open() to handle arbitrary codecs"
  | .noLowerCase v => s!"'{v.kindName}' object has no attribute 'lower'"
  | .noStart v => s!"startswith first arg must be str or a tuple of str, not {v.kindName}"
  | .noMark kind => s!"must be str or None, not {kind}"

/-- Why there is no configuration. -/
inductive ConfigFault where
  | rule (fault : RuleFault)
  | system (failure : Foreign)
  | encoding (fault : Text.EncodingFault)
  | unnamed (setting : String)
  | unparsed (setting : String) (origin : Origin)
  | secretsFile
  | wordsAre (kind : String)
  | invalid (issues : List Issue)
  deriving Repr

def unnamedMessage (setting : String) : String :=
  "error getting value for field \"" ++ setting ++ "\" from source \"" ++
    Origin.environment.name ++ "\""

def unparsedMessage (setting : String) (origin : Origin) : String :=
  "error parsing value for field \"" ++ setting ++ "\" from source \"" ++ origin.name ++ "\""

def secretsFileMessage : String := "secrets_dir must reference a directory, not a file"

def wordsMessage (kind : String) : String :=
  s!"cli_parse_args must be a list or tuple of strings, received <class '{kind}'>"

namespace Sources

def pathsOf : Value → Except ConfigFault (List Value)
  | .null => .ok []
  | .text path => .ok [.text path]
  | .list items => .ok items
  | .object members => .ok (members.map fun (name, _) => .text name)
  | v => .error (.rule (.notMany v))

/-- What a path leads to, `none` if nothing can be there. -/
def entryAt (s : Sources) : Value → Except ConfigFault (Option FileEntry)
  | .text written =>
    match s.files.expandHome (.ofText written.shown) with
    | .error failure => .error (.system failure)
    | .ok path =>
      match s.files.reach path with
      | .ok place => .ok (s.files.entry? place)
      | .error (.tooLong path) => .error (.system (.ofPath (.tooLong path)))
      | .error _ => .ok none
  | v => .error (.rule (.noPath v))

/-- The encoding that is asked for. The usual one is also that of the place. -/
def encodingOf : Value → Except RuleFault Text.Encoding
  | .null => .ok .utf8
  | .text name =>
    match name.whole? with
    | none => .error (.halvesInEncodingName name)
    | some name =>
      if name.toList.contains '\x00' then .error .nullInEncodingName
      else if name = "locale" then .ok .utf8
      else
        match Text.Encoding.ofName? name with
        | some encoding => .ok encoding
        | none =>
          .error (if Text.Encoding.isOfBytes name then .noTextEncoding name else .unknownEncoding name)
  | v => .error (.noEncodingName v)

def checkDepth : Value → Except RuleFault Unit
  | .bool _ | .int _ | .real _ => .ok ()
  | v => .error (.noOrder v)

def asRule {α : Type} (rule : Except RuleFault α) : Except ConfigFault α := rule.mapError .rule

/-- What the file of variables at a path holds, nothing without a file. Files further out are not looked
for. -/
def envFileAt (s : Sources) (rules : SourceRules) (path : Value) :
    Except ConfigFault EnvFile.Content := do
  match ← s.entryAt path with
  | some (.file bytes) =>
    let encoding ← asRule (encodingOf rules.encoding)
    match encoding.decode bytes with
    | .ok text => return EnvFile.read (Text.feedsOnly text)
    | .error fault => throw (.encoding fault)
  | _ =>
    asRule (checkDepth rules.depth)
    return .empty

def envFileContents (s : Sources) (rules : SourceRules) :
    Except ConfigFault (List EnvFile.Content) := do
  (← pathsOf rules.envFiles).mapM (s.envFileAt rules)

/-- The directories of further settings are none of them files. -/
def checkSecrets (s : Sources) (rules : SourceRules) : Except ConfigFault Unit := do
  let entries ← (← pathsOf rules.secrets).mapM s.entryAt
  if entries.any fun | some (.file _) => true | _ => false then throw .secretsFile

def checkWords : Value → Except ConfigFault Unit
  | .null | .bool _ | .list _ => .ok ()
  | v => if v.isZero then .ok () else .error (.wordsAre v.kindName)

def unreadStatement (line : Nat) : LogEntry :=
  ⟨"", .warning, s!"python-dotenv could not parse statement starting at line {line}"⟩

def layerOf (origin : Origin) : Except Variables.Fault Layer → Except ConfigFault Layer
  | .ok layer => .ok layer
  | .error (.unparsed _ (.tooDeep isArray)) =>
    .error (.system (.tooDeep (Json.Reason.tooDeep isArray).message))
  | .error (.unparsed setting _) => .error (.unparsed setting origin)
  | .error (.uncut kind) => .error (.rule (.noMark kind))

/-- What names of variables are to begin with is looked for in lower case, and then in the names that no
setting has. -/
def checkStart (rules : SourceRules) (others : List (String × Value)) : Except RuleFault Unit :=
  match rules.badStart with
  | none => .ok ()
  | some v =>
    if !rules.variableRules.keepsCase then .error (.noLowerCase v)
    else if others.isEmpty then .ok ()
    else .error (.noStart v)

/-- The layers of the files and of the environment, the lower one first. -/
def layers (s : Sources) (rules : SourceRules) (contents : List EnvFile.Content) :
    Except ConfigFault (Layer × Layer) := do
  match rules.unnamed with
  | some setting => throw (.unnamed setting)
  | none => pure ()
  let vars := s.environment.map fun (name, text) => (name, some text)
  let upper ← layerOf .environment (Variables.layer rules.variableRules vars)
  let written := contents.flatMap (·.resolved s.environment)
  let inFiles ← layerOf .envFile (Variables.layer rules.variableRules written)
  let others := Variables.others rules.variableRules written inFiles.givenNames
  asRule (checkStart rules others)
  let lower := inFiles.withOthers (Layer.ofMembers others)
  s.checkSecrets rules
  return (lower, upper)

/-- A `SchemaViewsConfig` made from some settings. -/
def config (s : Sources) (rules : SourceRules) (given : Layer) :
    List LogEntry × Except ConfigFault Config :=
  match s.envFileContents rules with
  | .error fault => ([], .error fault)
  | .ok contents =>
    let result := do
      checkWords rules.words
      let (lower, upper) ← s.layers rules contents
      match Config.ofLayer (lower.coveredBy (upper.coveredBy given)) with
      | .ok config => .ok config
      | .error issues => .error (.invalid issues)
    ((contents.flatMap (·.unread)).map unreadStatement, result)

end Sources
end ChangelogViews
