import ChangelogViews.Config.Arguments
import ChangelogViews.Program.Work
import ChangelogViews.Proofs.Attempts
import ChangelogViews.Proofs.Schema.Grammar

/-!
# Settings that make a configuration

What a call gives and what the sources around it add is one layer of settings in the end
(`Sources.settings`), and a configuration is read from it setting by setting (`Config.ofLayer_ok_iff`).
A name that a setting gives follows its rule to the end. Only the project for BigQuery may come from
another setting, the project itself, whose rule allows more (`identifiers_checked`,
`spacedProject_unchecked`).
-/

namespace ChangelogViews

namespace Sources

/-- The layers around a call: that of the files of variables, and that of the environment. -/
def around (s : Sources) (rules : SourceRules) : Except ConfigFault (Layer × Layer) := do
  let contents ← s.envFileContents rules
  checkWords rules.words
  s.layers rules contents

/-- The settings of a call together with those of the sources around it. -/
def settings (s : Sources) (rules : SourceRules) (given : Layer) : Except ConfigFault Layer :=
  (s.around rules).map fun (lower, upper) => lower.coveredBy (upper.coveredBy given)

/-- The configuration that settings make, if they make one. -/
def configured (settings : Layer) : Except ConfigFault Config :=
  (Config.ofLayer settings).mapError .invalid

/-- A call makes the configuration that all settings together describe. -/
theorem config_eq (s : Sources) (rules : SourceRules) (given : Layer) :
    (s.config rules given).2 = s.settings rules given >>= configured := by
  unfold config settings around
  cases s.envFileContents rules with
  | error fault => rfl
  | ok contents =>
    cases checkWords rules.words with
    | error fault => rfl
    | ok _ =>
      cases layered : s.layers rules contents with
      | error fault => simp only [layered, bind, Except.bind, Except.map]
      | ok layers =>
        simp only [layered, bind, Except.bind, Except.map, configured]
        cases Config.ofLayer (layers.1.coveredBy (layers.2.coveredBy given)) with
        | ok config => rfl
        | error issues => rfl

theorem config_ok_iff {s : Sources} {rules : SourceRules} {given : Layer} {config : Config} :
    (s.config rules given).2 = .ok config ↔
      ∃ settings, s.settings rules given = .ok settings ∧ Config.ofLayer settings = .ok config := by
  rw [config_eq]
  cases s.settings rules given with
  | error fault => simp [bind, Except.bind]
  | ok settings =>
    simp only [bind, Except.bind, configured, Except.ok.injEq, exists_eq_left']
    cases Config.ofLayer settings with
    | ok other => simp [Except.mapError]
    | error issues => simp [Except.mapError]

/-- No variables, and no files. -/
def bare : Sources := ⟨[], { base := [], homes := [], entries := [] }⟩

end Sources

theorem LooseText.whole?_eq_some_iff {t : LooseText} {s : String} :
    t.whole? = some s ↔ t = .ofString s := by
  obtain ⟨start, later⟩ := t
  cases later with
  | nil => simp [whole?, ofString]
  | cons piece rest => simp [whole?, ofString]

namespace Config

theorem checkWhole_ok_iff {v : Value} {name : String} :
    checkWhole v = .ok name ↔ Spells v (.ofString name) := by
  rw [← checkText_ok_iff, checkWhole]
  cases checkText v with
  | error issues => simp
  | ok text =>
    cases whole : text.whole? with
    | none =>
      have cut : text ≠ .ofString name := by
        rintro rfl
        cases whole
      simp [whole, cut, Checked.problem]
    | some start =>
      obtain rfl := LooseText.whole?_eq_some_iff.mp whole
      simp only [LooseText.whole?_ofString, Except.ok.injEq]
      simp [LooseText.ofString]

/-- The name that a setting gives under a rule, which it follows to its end. A setting that is absent or
null gives none. -/
inductive Named (rule : NameRule) : Option Value → Option String → Prop
  | absent : Named rule none none
  | null : Named rule (some .null) none
  | there {v : Value} {name : String} (spells : Spells v (.ofString name))
      (follows : rule.acceptsExactly name = true) : Named rule (some v) (some name)

theorem checkName_of_spells {rule : NameRule} {v : Value} {name : String}
    (spells : Spells v (.ofString name)) :
    checkName rule v =
      if rule.acceptsExactly name then .ok (some name) else .problem (.mismatch rule.pattern) := by
  have whole := checkWhole_ok_iff.mpr spells
  cases spells with
  | text => rw [checkName, whole]; nofun
  | bytes => rw [checkName, whole]; nofun

theorem named_of_checkName {rule : NameRule} {v : Value} {name : Option String}
    (ok : checkName rule v = .ok name) : Named rule (some v) name := by
  unfold checkName at ok
  split at ok
  · cases ok
    exact .null
  · split at ok
    · next text whole =>
      split at ok
      · next follows =>
        cases ok
        exact .there (checkWhole_ok_iff.mp whole) follows
      · cases ok
    · cases ok

theorem checkGiven_name_ok_iff {label : String} {rule : NameRule} {given : Option Value}
    {name : Option String} :
    checkGiven label given none (checkName rule) = .ok name ↔ Named rule given name := by
  unfold checkGiven
  rw [Checked.under_ok_iff]
  constructor
  · intro ok
    cases given with
    | none => cases ok; exact .absent
    | some v => exact named_of_checkName ok
  · intro named
    cases named with
    | absent => rfl
    | null => rfl
    | there spells follows => simp [checkName_of_spells spells, follows]

/-- The configuration holds what the settings say, each of them checked by itself. A project for BigQuery
that is not given is the project itself. -/
structure ReadFrom (settings : Layer) (config : Config) : Prop where
  project : Named .segment settings.projectId config.projectId
  bigQueryProject : ∃ own, Named .project settings.bigQueryProjectId own ∧
    config.bigQueryProjectId = own.or config.projectId
  dataset : Named .word settings.datasetId config.datasetId
  tablePrefix : Named .word settings.tablePrefix config.tablePrefix
  schemaFiles : checkGiven "schema_files" settings.schemaFiles [] checkTextList = .ok config.schemaFiles
  backend : checkGiven "backend" settings.backend .bigQuery checkBackend = .ok config.backend
  duckDbPath : checkGiven "duckdb_path" settings.duckDbPath standardDuckDbPath checkPath =
    .ok config.duckDbPath
  changelog : checkGiven "changelog" settings.changelog .standard ChangelogLayout.check =
    .ok config.changelog

theorem ofLayer_ok_iff {settings : Layer} {config : Config} :
    ofLayer settings = .ok config ↔ config.ReadFrom settings := by
  constructor
  · intro ok
    obtain ⟨parts, checked, rfl⟩ := Checked.map_ok_iff.mp ok
    simp only [Checked.both_ok_iff, checkGiven_name_ok_iff] at checked
    obtain ⟨project, bigQuery, dataset, first, files, backend, path, changelog⟩ := checked
    exact ⟨project, ⟨_, bigQuery, rfl⟩, dataset, first, files, backend, path, changelog⟩
  · rintro ⟨project, ⟨own, bigQuery, shared⟩, dataset, first, files, backend, path, changelog⟩
    refine Checked.map_ok_iff.mpr ⟨(config.projectId, own, config.datasetId, config.tablePrefix,
      config.schemaFiles, config.backend, config.duckDbPath, config.changelog), ?_, ?_⟩
    · simp only [Checked.both_ok_iff, checkGiven_name_ok_iff]
      exact ⟨project, bigQuery, dataset, first, files, backend, path, changelog⟩
    · show (⟨_, own.or config.projectId, _, _, _, _, _, _⟩ : Config) = config
      rw [← shared]

/-- Where only the project for BigQuery is refused, what is wrong with it is all that is reported. -/
theorem ofLayer_error {settings : Layer} {config : Config} {issues : List Issue}
    (read : config.ReadFrom { settings with bigQueryProjectId := none })
    (refused : checkGiven "bigquery_project_id" settings.bigQueryProjectId none (checkName .project) =
      .error issues) :
    ofLayer settings = .error issues := by
  obtain ⟨project, _, dataset, first, files, backend, path, changelog⟩ := read
  simp only [ofLayer, refused, checkGiven_name_ok_iff.mpr project, checkGiven_name_ok_iff.mpr dataset,
    checkGiven_name_ok_iff.mpr first, files, backend, path, changelog]
  rfl

end Config

/-! ### Names of a configuration -/

namespace NameRule

/-- A name that is there follows the rule to its end. -/
def Fits (rule : NameRule) (given : Option String) : Prop :=
  ∀ name ∈ given, rule.acceptsExactly name = true

theorem ne_empty {rule : NameRule} {name : String} (follows : rule.acceptsExactly name = true) :
    name ≠ "" := by
  rintro rfl
  cases rule <;> cases follows

theorem isWordChar_of_word {name : String} (follows : word.acceptsExactly name = true) {c : Char}
    (inside : c ∈ name.toList) : isWordChar c = true := by
  simp only [acceptsExactly, holds, Bool.and_eq_true, List.all_eq_true] at follows
  exact follows.2 c inside

theorem ne_slash_of_segment {name : String} (follows : segment.acceptsExactly name = true) {c : Char}
    (inside : c ∈ name.toList) : c ≠ '/' := by
  simp only [acceptsExactly, holds, Bool.and_eq_true, List.all_eq_true, bne_iff_ne] at follows
  exact follows.2 c inside

theorem isProjectChar_of_project {name : String} (follows : project.acceptsExactly name = true)
    {c : Char} (inside : c ∈ name.toList) : isProjectChar c = true := by
  unfold acceptsExactly at follows
  cases cs : name.toList with
  | nil => rw [cs] at inside; cases inside
  | cons first rest =>
    rw [cs] at follows inside
    simp only [holds, Bool.and_eq_true, List.all_eq_true] at follows
    obtain ⟨⟨small, others⟩, _⟩ := follows
    rcases List.mem_cons.mp inside with rfl | inside
    · simp [isProjectChar, small]
    · exact others c inside

end NameRule

/-- The settings say which project is meant for BigQuery. -/
def Layer.SetsBigQuery (settings : Layer) : Prop :=
  ∃ v, settings.bigQueryProjectId = some v ∧ v ≠ .null

namespace Config

variable {rule : NameRule} {given : Option Value} {name : Option String}

theorem Named.fits (named : Named rule given name) : rule.Fits name := by
  cases named with
  | absent => nofun
  | null => nofun
  | there spells follows =>
    rintro _ ⟨⟩
    exact follows

theorem Named.isSome_iff (named : Named rule given name) :
    name.isSome = true ↔ ∃ v, given = some v ∧ v ≠ .null := by
  cases named with
  | absent => simp
  | null => simp
  | @there v name spells follows =>
    have told : v ≠ .null := by cases spells <;> nofun
    simpa using told

/-- What is known of the names of a configuration that was made from settings, and of the characters that
get into the names of tables and into the references to them. -/
structure Identified (settings : Layer) (config : Config) : Prop where
  project : NameRule.segment.Fits config.projectId
  dataset : NameRule.word.Fits config.datasetId
  tablePrefix : NameRule.word.Fits config.tablePrefix
  told : settings.SetsBigQuery →
    ∃ name, config.bigQueryProjectId = some name ∧ NameRule.project.acceptsExactly name = true
  untold : ¬ settings.SetsBigQuery → config.bigQueryProjectId = config.projectId
  datasetChars : ∀ c ∈ config.dataset.toList, NameRule.isWordChar c = true
  tableChars : ∀ c ∈ (Names.part config.tablePrefix).toList, NameRule.isWordChar c = true
  projectChars : ∀ c ∈ config.target.project.toList,
    NameRule.isProjectChar c = true ∨ ¬ settings.SetsBigQuery ∧ c ≠ '/'

variable {settings : Layer} {config : Config}

theorem ReadFrom.told (read : config.ReadFrom settings) (sets : settings.SetsBigQuery) :
    ∃ name, config.bigQueryProjectId = some name ∧ NameRule.project.acceptsExactly name = true := by
  obtain ⟨own, named, shared⟩ := read.bigQueryProject
  obtain ⟨name, rfl⟩ := Option.isSome_iff_exists.mp (named.isSome_iff.mpr sets)
  exact ⟨name, shared, named.fits name rfl⟩

theorem ReadFrom.untold (read : config.ReadFrom settings) (sets : ¬ settings.SetsBigQuery) :
    config.bigQueryProjectId = config.projectId := by
  obtain ⟨own, named, shared⟩ := read.bigQueryProject
  have none : own = .none :=
    Option.not_isSome_iff_eq_none.mp fun there => sets (named.isSome_iff.mp there)
  rw [shared, none, Option.none_or]

theorem target_project_of_shared (shared : config.bigQueryProjectId = config.projectId) :
    config.target.project = config.projectId.getD "" := by
  simp [target, shared]

theorem isGiven_of_exactly {name : String} (follows : rule.acceptsExactly name = true) :
    isGiven (some name) = true := by
  simp [isGiven, NameRule.ne_empty follows]

theorem target_project_of_own {name : String} (own : config.bigQueryProjectId = some name)
    (follows : rule.acceptsExactly name = true) : config.target.project = name := by
  simp [target, own, isGiven_of_exactly follows]

/-- The characters of a name, or of the word that stands for an absent one. -/
private theorem isWordChar_of_fits (fits : NameRule.word.Fits name) {absent : String}
    (standard : ∀ c ∈ absent.toList, NameRule.isWordChar c = true) :
    ∀ c ∈ (name.getD absent).toList, NameRule.isWordChar c = true := by
  cases name with
  | none => exact standard
  | some name => exact fun c inside => NameRule.isWordChar_of_word (fits name rfl) inside

theorem ReadFrom.identified (read : config.ReadFrom settings) : config.Identified settings where
  project := read.project.fits
  dataset := read.dataset.fits
  tablePrefix := read.tablePrefix.fits
  told := read.told
  untold := read.untold
  datasetChars := isWordChar_of_fits read.dataset.fits (by simp)
  tableChars := by
    have part : Names.part config.tablePrefix = config.tablePrefix.getD "None" := by
      cases config.tablePrefix <;> rfl
    have standard : NameRule.word.acceptsExactly "None" = true := by decide
    rw [part]
    exact isWordChar_of_fits read.tablePrefix.fits fun c inside =>
      NameRule.isWordChar_of_word standard inside
  projectChars := by
    by_cases sets : settings.SetsBigQuery
    · obtain ⟨name, own, follows⟩ := read.told sets
      rw [target_project_of_own own follows]
      exact fun c inside => .inl (NameRule.isProjectChar_of_project follows inside)
    · rw [target_project_of_shared (read.untold sets)]
      intro c inside
      cases given : config.projectId with
      | none =>
        rw [given] at inside
        cases inside
      | some name =>
        rw [given] at inside
        exact .inr ⟨sets, NameRule.ne_slash_of_segment (read.project.fits name given) inside⟩

/-- The project for BigQuery follows its own rule if and only if it is given itself or the project happens to
follow that rule. -/
theorem Identified.fits_iff (identified : config.Identified settings) :
    NameRule.project.Fits config.bigQueryProjectId ↔
      settings.SetsBigQuery ∨ NameRule.project.Fits config.projectId := by
  by_cases sets : settings.SetsBigQuery
  · obtain ⟨name, own, follows⟩ := identified.told sets
    simp [NameRule.Fits, own, follows, sets]
  · rw [identified.untold sets]
    simp [sets]

end Config

namespace Arguments

/-- The settings of a call and of the sources around it, which are read as the arguments want it. -/
def settings (arguments : Arguments) (s : Sources) : Except ConfigFault Layer := do
  s.settings (← Sources.asRule arguments.rules) arguments.layer

theorem config_ok_iff {arguments : Arguments} {s : Sources} {config : Config} :
    (arguments.config s).2 = .ok config ↔
      ∃ settings, arguments.settings s = .ok settings ∧ config.ReadFrom settings := by
  unfold Arguments.config Arguments.settings
  cases arguments.rules with
  | error fault => simp [Sources.asRule, Except.mapError, bind, Except.bind]
  | ok rules => simp only [Sources.config_ok_iff, Config.ofLayer_ok_iff]; rfl

/-- Wherever the settings come from, the dataset and the common first part of table names are words or
absent, and so no other characters get into tables through them. A project for BigQuery that is given
follows its rule; else it is the project, which may hold anything but a slash. -/
theorem identifiers_checked {arguments : Arguments} {s : Sources} {config : Config}
    (made : (arguments.config s).2 = .ok config) :
    ∃ settings, arguments.settings s = .ok settings ∧ config.Identified settings ∧
      (NameRule.project.Fits config.bigQueryProjectId ↔
        settings.SetsBigQuery ∨ NameRule.project.Fits config.projectId) := by
  obtain ⟨settings, gathered, read⟩ := config_ok_iff.mp made
  exact ⟨settings, gathered, read.identified, read.identified.fits_iff⟩

/-- A call that names its project and its dataset. -/
def ofExports : Arguments := [("project_id", .text "my-app"), ("dataset_id", .text "exports")]

/-- The configuration of a call that gives no more than a project and a dataset. -/
def exportsConfig : Config :=
  ⟨some "my-app", some "my-app", some "exports", none, [], .bigQuery, Config.standardDuckDbPath,
    .standard⟩

theorem exports_checked :
    (ofExports.config Sources.bare).2 = .ok exportsConfig ∧
      ∃ settings, ofExports.settings Sources.bare = .ok settings ∧
        exportsConfig.Identified settings ∧
        (NameRule.project.Fits exportsConfig.bigQueryProjectId ↔
          settings.SetsBigQuery ∨ NameRule.project.Fits exportsConfig.projectId) := by
  have made : (ofExports.config Sources.bare).2 = .ok exportsConfig := rfl
  exact ⟨made, identifiers_checked made⟩

/-- A project whose name holds a capital and a blank becomes the project for BigQuery. -/
theorem spacedProject_unchecked :
    ¬ ∀ (arguments : Arguments) (s : Sources) (config : Config), (arguments.config s).2 = .ok config →
      NameRule.project.Fits config.bigQueryProjectId ∧ NameRule.word.Fits config.datasetId ∧
        NameRule.word.Fits config.tablePrefix := by
  intro all
  have made : (config [("project_id", .text "My Project")] Sources.bare).2 =
      .ok ⟨some "My Project", some "My Project", none, none, [], .bigQuery, Config.standardDuckDbPath,
        .standard⟩ := rfl
  have fits := (all _ _ _ made).1 "My Project" rfl
  exact absurd fits (by decide)

end Arguments
end ChangelogViews
