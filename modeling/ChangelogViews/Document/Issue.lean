/-!
# Issues of a document

What is wrong with a document that was to describe something: for each fault where it is and what
was wanted there. A check that is made of parts reports the issues of all of them, in order.
-/

namespace ChangelogViews

/-- A step into a value, as in the location of an error. -/
inductive Key where
  | member (name : String)
  | index (i : Nat)
  deriving DecidableEq, Repr

/-- What is wrong at one place. -/
inductive Problem where
  | missing
  | notText
  | notUtf8
  | notSequence
  | notList
  | notObject (model : String)
  | notAmong (choices : List String)
  | mismatch (pattern : String)
  | notPath
  | cyclic
  | tooDeep
  deriving DecidableEq, Repr

def listChoices : List String → String
  | [] => ""
  | [last] => s!"'{last}'"
  | [first, last] => s!"'{first}' or '{last}'"
  | first :: rest => s!"'{first}', {listChoices rest}"

/-- The `type` of an error. -/
def Problem.code : Problem → String
  | .missing => "missing"
  | .notText => "string_type"
  | .notUtf8 => "string_unicode"
  | .notSequence => "tuple_type"
  | .notList => "list_type"
  | .notObject _ => "model_type"
  | .notAmong _ => "enum"
  | .mismatch _ => "string_pattern_mismatch"
  | .notPath => "path_type"
  | .cyclic => "recursion_loop"
  | .tooDeep => "recursion_depth_exceeded"

/-- The `msg` of an error. -/
def Problem.message : Problem → String
  | .missing => "Field required"
  | .notText => "Input should be a valid string"
  | .notUtf8 => "Input should be a valid string, unable to parse raw data as a unicode string"
  | .notSequence => "Input should be a valid tuple"
  | .notList => "Input should be a valid list"
  | .notObject model => s!"Input should be a valid dictionary or instance of {model}"
  | .notAmong choices => s!"Input should be {listChoices choices}"
  | .mismatch pattern => s!"String should match pattern '{pattern}'"
  | .notPath => "Input is not a valid path for <class 'pathlib.Path'>"
  | .cyclic => "Recursion error - cyclic reference detected"
  | .tooDeep => "Recursion error - maximum validation depth exceeded"

/-- A problem and its location from the top of the document. -/
structure Issue where
  location : List Key
  problem : Problem
  deriving DecidableEq, Repr

/-- The outcome of a check: what the document describes, or all its issues. -/
abbrev Checked (α : Type) := Except (List Issue) α

namespace Checked

def problem {α : Type} (p : Problem) : Checked α := .error [⟨[], p⟩]

def under {α : Type} (key : Key) : Checked α → Checked α
  | .ok a => .ok a
  | .error issues => .error (issues.map fun issue => { issue with location := key :: issue.location })

def both {α β : Type} : Checked α → Checked β → Checked (α × β)
  | .ok a, .ok b => .ok (a, b)
  | .ok _, .error issues => .error issues
  | .error issues, .ok _ => .error issues
  | .error first, .error second => .error (first ++ second)

end Checked
end ChangelogViews
