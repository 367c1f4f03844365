import ChangelogViews.Naming
import ChangelogViews.Text.Blank

/-!
# Questions

A question is asked until its answer is accepted, and an empty answer stands for the fallback. The
replies are a list that may end before the question is answered.
-/

namespace ChangelogViews

/-- What comes back when something is asked: a line, or an interruption. -/
inductive Reply where
  | line (text : String)
  | interrupt
  deriving DecidableEq, Repr

/-- What is shown: a question, with the reply behind it on one line, or a line of its own. -/
inductive Shown where
  | question (text : String)
  | remark (text : String)
  deriving DecidableEq, Repr

/-- What was shown so far, and the replies that were not read yet. -/
structure Console where
  shown : List Shown
  replies : List Reply
  deriving DecidableEq, Repr

/-- Why a question got no answer. -/
inductive Silence where
  | interrupted
  | exhausted
  deriving DecidableEq, Repr

abbrev Asking (α : Type) := ExceptT Silence (StateM Console) α

inductive Objection where
  | blank
  | characters
  deriving DecidableEq, Repr

/-- The messages of `validate_input`. -/
def Objection.message (subject : String) : Objection → String
  | .blank => s!"Please supply a {subject}"
  | .characters => s!"The {subject} must only contain letters or spaces"

/-- `validate_input`. -/
def NameRule.objection? (rule : NameRule) (answer : Option String) : Option Objection :=
  match answer with
  | none => some .blank
  | some text =>
    if Text.allBlank text then some .blank
    else if rule.accepts text then none
    else some .characters

/-- The arguments of `prompt`. Without a pattern every answer is accepted. -/
structure Question where
  text : String
  subject : String
  rule : Option NameRule
  fallback : Option String
  deriving DecidableEq, Repr

namespace Question

def shown (q : Question) : String :=
  let fallback := q.fallback.getD ""
  if fallback = "" then s!"? {q.text} " else s!"? {q.text} ({fallback}) "

/-- The answer that a line gives, the default for an empty one. -/
def answer (q : Question) (line : String) : String :=
  let typed := Text.trim line
  if typed = "" then q.fallback.getD "" else typed

def objection? (q : Question) (answer : String) : Option Objection :=
  q.rule.bind (·.objection? (some answer))

/-- The loop of `prompt`, where `said` was shown before. -/
def askFrom (q : Question) (said : List Shown) : List Reply → Except Silence String × Console
  | [] => (.error .exhausted, ⟨said ++ [.question q.shown], []⟩)
  | .interrupt :: rest => (.error .interrupted, ⟨said ++ [.question q.shown], rest⟩)
  | .line line :: rest =>
    match q.objection? (q.answer line) with
    | none => (.ok (q.answer line), ⟨said ++ [.question q.shown], rest⟩)
    | some objection =>
      q.askFrom
        (said ++ [.question q.shown, .remark (">> " ++ objection.message q.subject)]) rest

/-- `prompt`. -/
def ask (q : Question) : Asking String := fun console => q.askFrom console.shown console.replies

end Question
end ChangelogViews
