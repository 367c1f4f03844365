import ChangelogViews.Console.Interview
import ChangelogViews.Console.Usage
import ChangelogViews.Program.Work

/-!
# The command

From the words of a command line to the end of the run. Errors of schemas, of the configuration and
interruptions are told and end the run with a status; any other failure is left to the caller.
-/

namespace ChangelogViews

/-- What a command finds around it: the files, the environment, the replies to its prompts and the databases. -/
structure World (σ τ : Type) where
  files : FileTree
  environment : List (String × String)
  replies : List Reply
  databases : Databases σ τ

def World.sources {σ τ : Type} (w : World σ τ) : Sources := ⟨w.environment, w.files⟩

def World.width {σ τ : Type} (w : World σ τ) : Nat := Usage.widthIn w.environment

/-- How a command ends. -/
inductive Ending where
  | left (status : Nat)
  | returned (status : Nat)
  | unanswered
  | unconfigured (fault : ConfigFault)
  | failed (failure : Failure)
  deriving Repr

/-- What a command wrote and exchanged, and how it ended. -/
structure Report where
  output : Output
  traffic : Traffic
  ending : Ending
  deriving Repr

namespace Report

def quiet (output : Output) (ending : Ending) : Report := ⟨output, .none, ending⟩

def after (r : Report) (before : Output) : Report := { r with output := before ++ r.output }

/-- The report for some work. Errors of schemas are told here. -/
def ofWork (work : WorkReport) : Report :=
  match work.ending with
  | .status code => ⟨work.output, work.traffic, .returned code⟩
  | .failed (.views e) =>
    ⟨work.output ++ .complaint s!"Error: {e.text}\n", work.traffic, .returned 1⟩
  | .failed failure => ⟨work.output, work.traffic, .failed failure⟩

end Report

/-- A text that was shown. A prompt leaves its line open. -/
def Shown.text : Shown → String
  | .question text => text
  | .remark text => text ++ "\n"

namespace Options

def log (o : Options) : Log := Log.silent.enable (if o.verbose then .debug else .warning)

def preamble (o : Options) (c : Configuring) : Output :=
  ⟨String.join (c.shown.map Shown.text), o.log.writeAll c.logs⟩

def start {σ τ : Type} (o : Options) (config : Config) (w : World σ τ) : Report :=
  match config.missing with
  | [] => .ofWork (config.work o.dryRun o.log w.files w.databases)
  | missing =>
    if o.nonInteractive then .quiet (.result (Usage.help w.width)) (.returned 1)
    else .quiet (.complaint ("Error: missing " ++ ", ".intercalate missing ++ "\n")) (.returned 1)

def stop : Unconfigured → Report
  | .silence .interrupted => .quiet (.result "\nInterrupted.\n") (.returned 130)
  | .silence .exhausted => .quiet .none .unanswered
  | .fault (.invalid _) =>
    .quiet (.complaint s!"Error: invalid configuration\n{omittedDetails}") (.returned 1)
  | .fault fault => .quiet .none (.unconfigured fault)

/-- `main` behind `parse_args`. -/
def run {σ τ : Type} (o : Options) (w : World σ τ) : Report :=
  let c := o.configure w.sources w.replies
  Report.after
    (match c.result with
      | .ok config => o.start config w
      | .error e => stop e)
    (o.preamble c)

end Options

/-- `main`. -/
def command {σ τ : Type} (words : List String) (w : World σ τ) : Report :=
  match Options.read words with
  | .error .help => .quiet (.result (Usage.help w.width)) (.left 0)
  | .error (.fault fault) => .quiet (.complaint (Usage.refusal w.width fault)) (.left 2)
  | .ok o => o.run w

end ChangelogViews
