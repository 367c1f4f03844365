import ChangelogViews.Console.Interview
import ChangelogViews.Proofs.Console.Questions

/-!
# Configurations from answers

Once all questions are answered a configuration is made again, with the answers in place of what was known.
Every answer was accepted, and so is every setting now, save for one: a project for BigQuery that was taken
over from the project and ends in a line feed (`Options.answers_accepted`). The copy is also what is proposed
once another project was answered, so the two need not be the same in the end
(`Options.bigQueryProject_left_open`).
-/

namespace ChangelogViews

namespace Answers

/-- What is proposed as the project for BigQuery once a project was answered. -/
def proposed (known : Config) (project : String) : Option String :=
  if Config.isGiven known.bigQueryProjectId then known.bigQueryProjectId else some project

/-- The replies answer one question after the other. -/
inductive Given (known : Config) : List Reply → Answers → List Reply → Prop
  | all {start afterProject afterBigQuery afterDataset afterPrefix rest : List Reply}
      {project bigQuery dataset first files : String}
      (asksProject : (Question.project known.projectId).Answered start project afterProject)
      (asksBigQuery : (Question.bigQueryProject (proposed known project)).Answered afterProject bigQuery
        afterBigQuery)
      (asksDataset : (Question.dataset known.datasetId).Answered afterBigQuery dataset afterDataset)
      (asksPrefix : (Question.tablePrefix known.tablePrefix).Answered afterDataset first afterPrefix)
      (asksFiles : (Question.schemaFiles known.schemaFiles).Answered afterPrefix files rest) :
      Given known start ⟨project, bigQuery, dataset, first, pathsIn files⟩ rest

variable {known : Config} {replies rest : List Reply} {a : Answers}

theorem ask_ok_iff (said : List Shown) :
    (∃ shown, (ask known).run ⟨said, replies⟩ = (.ok a, ⟨shown, rest⟩)) ↔
      Given known replies a rest := by
  constructor
  · rintro ⟨shown, ran⟩
    obtain ⟨project, next, asked, ran⟩ := Asking.bind_ok_iff.mp ran
    have project := (Question.ask_ok_iff _).mp ⟨next.shown, asked⟩
    obtain ⟨bigQuery, next, asked, ran⟩ := Asking.bind_ok_iff.mp ran
    have bigQuery := (Question.ask_ok_iff _).mp ⟨next.shown, asked⟩
    obtain ⟨dataset, next, asked, ran⟩ := Asking.bind_ok_iff.mp ran
    have dataset := (Question.ask_ok_iff _).mp ⟨next.shown, asked⟩
    obtain ⟨first, next, asked, ran⟩ := Asking.bind_ok_iff.mp ran
    have first := (Question.ask_ok_iff _).mp ⟨next.shown, asked⟩
    obtain ⟨files, next, asked, ran⟩ := Asking.bind_ok_iff.mp ran
    have files := (Question.ask_ok_iff _).mp ⟨next.shown, asked⟩
    cases ran
    exact .all project bigQuery dataset first files
  · rintro ⟨project, bigQuery, dataset, first, files⟩
    obtain ⟨shown, project⟩ := (Question.ask_ok_iff ⟨said, replies⟩).mpr project
    obtain ⟨shown, bigQuery⟩ := (Question.ask_ok_iff ⟨shown, _⟩).mpr bigQuery
    obtain ⟨shown, dataset⟩ := (Question.ask_ok_iff ⟨shown, _⟩).mpr dataset
    obtain ⟨shown, first⟩ := (Question.ask_ok_iff ⟨shown, _⟩).mpr first
    obtain ⟨shown, files⟩ := (Question.ask_ok_iff ⟨shown, _⟩).mpr files
    refine ⟨shown, ?_⟩
    refine Asking.bind_ok_iff.mpr ⟨_, _, project, ?_⟩
    refine Asking.bind_ok_iff.mpr ⟨_, _, bigQuery, ?_⟩
    refine Asking.bind_ok_iff.mpr ⟨_, _, dataset, ?_⟩
    refine Asking.bind_ok_iff.mpr ⟨_, _, first, ?_⟩
    exact Asking.bind_ok_iff.mpr ⟨_, _, files, rfl⟩

/-- What answers have to follow so that they are accepted as settings, the project for BigQuery aside. -/
structure Followed (a : Answers) : Prop where
  project : NameRule.segment.acceptsExactly a.project = true
  dataset : NameRule.word.acceptsExactly a.dataset = true
  tablePrefix : NameRule.word.acceptsExactly a.tablePrefix = true

variable {settings : Layer}

theorem Given.followed (given : Given known replies a rest) (read : known.ReadFrom settings) :
    a.Followed := by
  obtain ⟨project, bigQuery, dataset, first, files⟩ := given
  exact
    { project := NameRule.segment_exactly_of_accepts (project.accepts rfl)
      dataset := dataset.exactly rfl read.dataset.fits
      tablePrefix := first.exactly rfl read.tablePrefix.fits }

/-- Where no project for BigQuery is set, the known project is proposed, or else the one that was answered. -/
theorem proposed_of_untold (read : known.ReadFrom settings) (untold : ¬ settings.SetsBigQuery)
    (project : String) : proposed known project = some (known.projectId.getD project) := by
  rw [proposed, read.untold untold]
  cases given : known.projectId with
  | none => rfl
  | some before =>
    have follows := read.project.fits before given
    rw [if_pos (Config.isGiven_of_exactly follows), Option.getD_some]

theorem proposed_of_told {name : String} (own : known.bigQueryProjectId = some name)
    (follows : NameRule.project.acceptsExactly name = true) (project : String) :
    proposed known project = some name := by
  rw [proposed, own, if_pos (Config.isGiven_of_exactly follows)]

/-- The answer for BigQuery follows its rule to the end, unless it was taken over from the project, as no
project for BigQuery was set, and ends in a line feed. -/
theorem Given.bigQuery_or_copied (given : Given known replies a rest) (read : known.ReadFrom settings) :
    NameRule.project.acceptsExactly a.bigQueryProject = true ∨
      EndsInFeed a.bigQueryProject ∧ known.projectId = some a.bigQueryProject ∧
        ¬ settings.SetsBigQuery := by
  obtain ⟨asksProject, asksBigQuery, _, _, _⟩ := given
  rcases asksBigQuery.exactly_or_feed rfl with follows | ⟨fed, fallback⟩
  · exact .inl follows
  · have taken : proposed known _ = some _ := fallback
    refine .inr ⟨fed, ?_⟩
    have untold : ¬ settings.SetsBigQuery := by
      intro sets
      obtain ⟨name, own, follows⟩ := read.told sets
      rw [proposed_of_told own follows] at taken
      cases taken
      exact NameRule.not_endsInFeed_of_project follows fed
    refine ⟨?_, untold⟩
    rw [proposed_of_untold read untold] at taken
    cases before : known.projectId with
    | some name => rwa [before] at taken
    | none =>
      -- Nothing stands for the answer to the first question, so it cannot end in a line feed.
      rw [before] at taken asksProject
      cases taken
      obtain ⟨line, typed, _⟩ := asksProject.line
      rw [Option.getD_none, ← typed] at fed
      cases (Question.project none).fallback_of_feed fed

/-- Once the project is answered, the next line is blank, and nothing is to be objected to what it takes as
the project for BigQuery. -/
inductive LeavesOpen (known : Config) (project : String) : List Reply → Prop
  | blank {replies later : List Reply} {line : String}
      (asksProject : (Question.project known.projectId).Answered replies project (.line line :: later))
      (blank : Text.trim line = "")
      (fine : (Question.bigQueryProject (proposed known project)).objection?
        ((Question.bigQueryProject (proposed known project)).answer line) = none) :
      LeavesOpen known project replies

/-- A project for BigQuery that is left open is the known project, or else the one that was answered. -/
theorem LeavesOpen.answers {project : String} (leavesOpen : LeavesOpen known project replies)
    (given : Given known replies a rest) (read : known.ReadFrom settings)
    (untold : ¬ settings.SetsBigQuery) :
    a.project = project ∧ a.bigQueryProject = known.projectId.getD project := by
  obtain ⟨asksProject, blank, fine⟩ := leavesOpen
  obtain ⟨asked, asksBigQuery, _, _, _⟩ := given
  obtain ⟨rfl, rfl⟩ := asked.unique asksProject
  obtain ⟨taken, -⟩ := asksBigQuery.eq_of_accepted fine
  refine ⟨rfl, taken.trans ?_⟩
  rw [proposed_of_untold read untold]
  simp [Question.answer, Question.bigQueryProject, blank]

end Answers

/-! ### Answers as settings -/

theorem Layer.coveredBy_replacing (lower given : Layer) (a : Answers) :
    lower.coveredBy (given.replacing a.layer) = (lower.coveredBy given).replacing a.layer := by
  have text (below : Option Value) (t : LooseText) :
      givenCovered below (some (.text t)) = some (.text t) := by
    cases below <;> simp [givenCovered, Value.coveredBy]
  have list (below : Option Value) (items : List Value) :
      givenCovered below (some (.list items)) = some (.list items) := by
    cases below <;> simp [givenCovered, Value.coveredBy]
  simp [coveredBy, replacing, Answers.layer, projectNameOver, text, list]

theorem Sources.settings_replacing (s : Sources) (rules : SourceRules) (given : Layer) (a : Answers) :
    s.settings rules (given.replacing a.layer) =
      (s.settings rules given).map fun settings => settings.replacing a.layer := by
  unfold settings
  cases s.around rules with
  | error fault => rfl
  | ok layers => simp only [Except.map, Layer.coveredBy_replacing]

namespace Config

theorem checkTexts_texts (i : Nat) (texts : List String) :
    checkTexts i (texts.map fun text => .text (.ofString text)) = .ok texts := by
  induction texts generalizing i with
  | nil => rfl
  | cons text rest ih =>
    rw [List.map_cons, checkTexts, ih]
    rfl

/-- The configuration with all answers in it. -/
def answered (known : Config) (a : Answers) : Config :=
  { known with
    projectId := some a.project
    bigQueryProjectId := some a.bigQueryProject
    datasetId := some a.dataset
    tablePrefix := some a.tablePrefix
    schemaFiles := a.schemaFiles }

variable {known : Config} {settings : Layer} {a : Answers}

/-- All settings but the project for BigQuery are read from the answers, or as before. -/
theorem ReadFrom.replacing (read : known.ReadFrom settings) (followed : a.Followed) :
    { known.answered a with bigQueryProjectId := some a.project }.ReadFrom
      { settings.replacing a.layer with bigQueryProjectId := none } where
  project := .there (.text _) followed.project
  bigQueryProject := ⟨none, .absent, rfl⟩
  dataset := .there (.text _) followed.dataset
  tablePrefix := .there (.text _) followed.tablePrefix
  schemaFiles := Checked.under_ok_iff.mpr (checkTexts_texts 0 a.schemaFiles)
  backend := read.backend
  duckDbPath := read.duckDbPath
  changelog := read.changelog

/-- What is reported for a name that does not follow the rule of projects to its end. -/
def bigQueryMismatch : Issue :=
  ⟨[.member "bigquery_project_id"], .mismatch NameRule.project.pattern⟩

theorem ofLayer_replacing (read : known.ReadFrom settings) (followed : a.Followed) :
    ofLayer (settings.replacing a.layer) =
      if NameRule.project.acceptsExactly a.bigQueryProject then .ok (known.answered a)
      else .error [bigQueryMismatch] := by
  have others := read.replacing followed
  split
  · next follows =>
    exact ofLayer_ok_iff.mpr
      { others with bigQueryProject := ⟨some a.bigQueryProject, .there (.text _) follows, rfl⟩ }
  · next refused =>
    have mismatch : checkName .project (.text (.ofString a.bigQueryProject)) =
        .problem (.mismatch NameRule.project.pattern) := by
      rw [checkName_of_spells (.text _), if_neg refused]
    refine ofLayer_error others ?_
    change Checked.under _ (checkName .project (.text (.ofString a.bigQueryProject))) = _
    rw [mismatch]
    rfl

end Config

/-- What a call makes of settings that answers were put into. -/
theorem Sources.config_replacing {s : Sources} {rules : SourceRules} {given : Layer} {known : Config}
    {a : Answers} (first : (s.config rules given).2 = .ok known) (followed : a.Followed) :
    (s.config rules (given.replacing a.layer)).2 =
      if NameRule.project.acceptsExactly a.bigQueryProject then .ok (known.answered a)
      else .error (.invalid [Config.bigQueryMismatch]) := by
  obtain ⟨settings, gathered, made⟩ := config_ok_iff.mp first
  rw [config_eq, settings_replacing, gathered]
  change configured (settings.replacing a.layer) = _
  rw [configured, Config.ofLayer_replacing (Config.ofLayer_ok_iff.mp made) followed]
  split <;> rfl

namespace Options

variable {o : Options} {s : Sources} {replies rest : List Reply} {known config : Config} {a : Answers}

private theorem settled_ok_iff {outcome : Except ConfigFault Config} :
    Configuring.settled outcome = .ok config ↔ outcome = .ok config := by
  cases outcome <;> simp [Configuring.settled]

/-- A run that asks gets the configuration that is made with the answers to all questions. -/
theorem configure_ok_iff (interactive : o.nonInteractive = false) :
    (o.configure s replies).result = .ok config ↔
      ∃ known a rest, (s.config {} o.layer).2 = .ok known ∧ Answers.Given known replies a rest ∧
        (s.config {} (o.layer.replacing a.layer)).2 = .ok config := by
  unfold configure
  rcases first : s.config {} o.layer with ⟨logs, fault | known⟩
  · simp
  · simp only [interactive, Bool.false_eq_true, if_false, Except.ok.injEq, exists_and_left,
      exists_eq_left']
    rcases asked : (Answers.ask known).run ⟨[], replies⟩ with ⟨silence | a, console⟩
    · constructor
      · nofun
      · rintro ⟨a, rest, given, _⟩
        obtain ⟨shown, answered⟩ := (Answers.ask_ok_iff []).mpr given
        rw [asked] at answered
        cases answered
    · constructor
      · intro configured
        exact ⟨a, _, (Answers.ask_ok_iff _).mp ⟨console.shown, asked⟩, settled_ok_iff.mp configured⟩
      · rintro ⟨other, rest, given, made⟩
        obtain ⟨shown, answered⟩ := (Answers.ask_ok_iff []).mpr given
        rw [asked] at answered
        cases answered
        exact settled_ok_iff.mpr made

/-- Where all answers follow their rules to the end, a run that asks gets the configuration with these in
it. -/
theorem configure_of_followed {console : Console} (interactive : o.nonInteractive = false)
    (first : (s.config {} o.layer).2 = .ok known)
    (asked : (Answers.ask known).run ⟨[], replies⟩ = (.ok a, console)) (followed : a.Followed)
    (follows : NameRule.project.acceptsExactly a.bigQueryProject = true) :
    (o.configure s replies).result = .ok (known.answered a) := by
  have given := (Answers.ask_ok_iff _).mp ⟨console.shown, asked⟩
  refine (configure_ok_iff interactive).mpr ⟨known, a, console.replies, first, given, ?_⟩
  rw [Sources.config_replacing first followed, if_pos follows]

/-- Every answer is accepted as a setting, save for one for BigQuery that ends in a line feed: it was taken
over from the project, and the configuration is refused for it. -/
theorem answers_accepted {said : List Shown} {console : Console}
    (first : (s.config {} o.layer).2 = .ok known)
    (asked : (Answers.ask known).run ⟨said, replies⟩ = (.ok a, console)) :
    ((s.config {} (o.layer.replacing a.layer)).2 =
      if EndsInFeed a.bigQueryProject then .error (.invalid [Config.bigQueryMismatch])
      else .ok (known.answered a)) ∧
    (EndsInFeed a.bigQueryProject → known.projectId = some a.bigQueryProject ∧
      ∀ settings, s.settings {} o.layer = .ok settings → ¬ settings.SetsBigQuery) := by
  obtain ⟨settings, gathered, made⟩ := Sources.config_ok_iff.mp first
  have read := Config.ofLayer_ok_iff.mp made
  have given := (Answers.ask_ok_iff _).mp ⟨console.shown, asked⟩
  have again := Sources.config_replacing first (given.followed read)
  rcases given.bigQuery_or_copied read with follows | ⟨fed, copied, untold⟩
  · have plain := NameRule.not_endsInFeed_of_project follows
    refine ⟨?_, fun fed => absurd fed plain⟩
    rw [again, if_pos follows, if_neg plain]
  · have refused : ¬ NameRule.project.acceptsExactly a.bigQueryProject = true :=
      fun follows => NameRule.not_endsInFeed_of_project follows fed
    refine ⟨?_, fun _ => ⟨copied, ?_⟩⟩
    · rw [again, if_neg refused, if_pos fed]
    · intro other same
      rw [gathered] at same
      cases same
      exact untold

/-- Options that name a project and nothing else. -/
def naming (project : String) : Options :=
  ⟨false, some (.text project), .none, .none, .none, [], .none, .none, false, false⟩

/-- What is known of a run that names a project. -/
def knownOf (project : String) : Config :=
  ⟨some project, some project, .none, .none, [], .bigQuery, Config.standardDuckDbPath, .standard⟩

/-- Replies that take the projects over and name the rest. -/
def blankReplies : List Reply := [.line "", .line "", .line "ds", .line "users", .line "s.json"]

/-- The answers of these replies. -/
def answersOf (project : String) : Answers := ⟨project, project, "ds", "users", pathsIn "s.json"⟩

theorem myApp_accepted :
    ∃ console, (Sources.bare.config {} (naming "my-app").layer).2 = .ok (knownOf "my-app") ∧
      (Answers.ask (knownOf "my-app")).run ⟨[], blankReplies⟩ = (.ok (answersOf "my-app"), console) ∧
      ((Sources.bare.config {} ((naming "my-app").layer.replacing (answersOf "my-app").layer)).2 =
        if EndsInFeed (answersOf "my-app").bigQueryProject then
          .error (.invalid [Config.bigQueryMismatch])
        else .ok ((knownOf "my-app").answered (answersOf "my-app"))) ∧
      (EndsInFeed (answersOf "my-app").bigQueryProject →
        (knownOf "my-app").projectId = some (answersOf "my-app").bigQueryProject ∧
        ∀ settings, Sources.bare.settings {} (naming "my-app").layer = .ok settings →
          ¬ settings.SetsBigQuery) := by
  have first : (Sources.bare.config {} (naming "my-app").layer).2 = .ok (knownOf "my-app") := rfl
  have asked : (Answers.ask (knownOf "my-app")).run ⟨[], blankReplies⟩ =
    (.ok (answersOf "my-app"), _) := rfl
  exact ⟨_, first, asked, answers_accepted first asked⟩

/-- A project that ends in a line feed is accepted in both answers and refused as a setting. -/
theorem fedProject_refused :
    ¬ ∀ (o : Options) (s : Sources) (replies : List Reply) (known : Config) (a : Answers)
      (console : Console), (s.config {} o.layer).2 = .ok known →
      (Answers.ask known).run ⟨[], replies⟩ = (.ok a, console) →
      ∃ config, (s.config {} (o.layer.replacing a.layer)).2 = .ok config := by
  intro all
  have first : (Sources.bare.config {} (naming "my-app\n").layer).2 = .ok (knownOf "my-app\n") := rfl
  have followed : (answersOf "my-app\n").Followed := ⟨by decide, by decide, by decide⟩
  obtain ⟨config, made⟩ := all _ _ blankReplies _ (answersOf "my-app\n") _ first rfl
  rw [Sources.config_replacing first followed, if_neg (by decide)] at made
  cases made

/-- Where no project for BigQuery is set and the answers leave it open, it is the project that was known
before the questions, and the project that was answered only if none was known. -/
theorem bigQueryProject_left_open {settings : Layer} {project : String}
    (interactive : o.nonInteractive = false)
    (gathered : s.settings {} o.layer = .ok settings) (untold : ¬ settings.SetsBigQuery)
    (first : (s.config {} o.layer).2 = .ok known)
    (leavesOpen : Answers.LeavesOpen known project replies)
    (configured : (o.configure s replies).result = .ok config) :
    config.projectId = some project ∧
      config.bigQueryProjectId = some (known.projectId.getD project) ∧
      (config.bigQueryProjectId = config.projectId ↔ ∀ before ∈ known.projectId, before = project) := by
  obtain ⟨_, a, _, again, given, made⟩ := (configure_ok_iff interactive).mp configured
  rw [first] at again
  cases again
  obtain ⟨_, same, fromSettings⟩ := Sources.config_ok_iff.mp first
  rw [gathered] at same
  cases same
  have read := Config.ofLayer_ok_iff.mp fromSettings
  rw [Sources.config_replacing first (given.followed read)] at made
  split at made
  · cases made
    obtain ⟨named, taken⟩ := leavesOpen.answers given read untold
    refine ⟨congrArg some named, congrArg some taken, ?_⟩
    change some a.bigQueryProject = some a.project ↔ _
    rw [named, taken]
    cases known.projectId <;> simp
  · cases made

/-- The configuration of a run that names a project and takes it over. -/
def myAppConfig : Config := (knownOf "my-app").answered (answersOf "my-app")

theorem myApp_left_open :
    ∃ settings, (naming "my-app").nonInteractive = false ∧
      Sources.bare.settings {} (naming "my-app").layer = .ok settings ∧ ¬ settings.SetsBigQuery ∧
      (Sources.bare.config {} (naming "my-app").layer).2 = .ok (knownOf "my-app") ∧
      Answers.LeavesOpen (knownOf "my-app") "my-app" blankReplies ∧
      ((naming "my-app").configure Sources.bare blankReplies).result = .ok myAppConfig ∧
      myAppConfig.projectId = some "my-app" ∧ myAppConfig.bigQueryProjectId = some "my-app" ∧
      (myAppConfig.bigQueryProjectId = myAppConfig.projectId ↔
        ∀ before ∈ (knownOf "my-app").projectId, before = "my-app") := by
  have first : (Sources.bare.config {} (naming "my-app").layer).2 = .ok (knownOf "my-app") := rfl
  have untold : ¬ (naming "my-app").layer.SetsBigQuery := by rintro ⟨_, ⟨⟩, _⟩
  have leavesOpen : Answers.LeavesOpen (knownOf "my-app") "my-app" blankReplies :=
    .blank (.accepted rfl) (by decide) (by decide)
  have configured : ((naming "my-app").configure Sources.bare blankReplies).result = .ok myAppConfig :=
    configure_of_followed rfl first rfl ⟨by decide, by decide, by decide⟩ (by decide)
  exact ⟨_, rfl, rfl, untold, first, leavesOpen, configured,
    bigQueryProject_left_open rfl rfl untold first leavesOpen configured⟩

/-- Replies that name another project and leave the one for BigQuery open. -/
def otherReplies : List Reply :=
  [.line "other-app", .line "", .line "ds", .line "users", .line "s.json"]

/-- The answers of these replies to a run that named a project before. -/
def otherAnswers : Answers := ⟨"other-app", "my-app", "ds", "users", pathsIn "s.json"⟩

/-- The project for BigQuery stays what it was known as, though another project is named in an answer. -/
theorem otherApp_not_followed :
    ¬ ∀ (o : Options) (s : Sources) (replies : List Reply) (settings : Layer) (known config : Config)
      (project : String), o.nonInteractive = false → s.settings {} o.layer = .ok settings →
      ¬ settings.SetsBigQuery → (s.config {} o.layer).2 = .ok known →
      Answers.LeavesOpen known project replies → (o.configure s replies).result = .ok config →
      config.bigQueryProjectId = config.projectId := by
  intro all
  have first : (Sources.bare.config {} (naming "my-app").layer).2 = .ok (knownOf "my-app") := rfl
  have untold : ¬ (naming "my-app").layer.SetsBigQuery := by rintro ⟨_, ⟨⟩, _⟩
  have leavesOpen : Answers.LeavesOpen (knownOf "my-app") "other-app" otherReplies :=
    .blank (.accepted rfl) (by decide) (by decide)
  have configured : ((naming "my-app").configure Sources.bare otherReplies).result =
      .ok ((knownOf "my-app").answered otherAnswers) :=
    configure_of_followed rfl first rfl ⟨by decide, by decide, by decide⟩ (by decide)
  have same : some "my-app" = some "other-app" :=
    all _ _ _ _ _ _ _ rfl rfl untold first leavesOpen configured
  exact absurd same (by decide)

end Options
end ChangelogViews
