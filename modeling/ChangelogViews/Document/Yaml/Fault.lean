import ChangelogViews.Text.Loose

/-!
# Faults of YAML

Where a YAML text stops being a document.
-/

namespace ChangelogViews

/-- The stage that met the fault, and for a node that has a tag it cannot have, what the tag was. -/
inductive YamlFault where
  | character
  | token
  /-- A token stands where no rule allows it. -/
  | order
  /-- An alias without its anchor, an anchor twice, or a second document. -/
  | reference
  /-- A node whose tag has no constructor. -/
  | meaning
  /-- A scalar that is no value of its type. -/
  | scalar
  /-- A word with the tag of a boolean that is none. -/
  | notTruth (word : LooseText)
  /-- The empty scalar with the tag of a number. -/
  | emptyNumber
  | notMoment
  | membersAsMoment
  /-- An escape for a code point beyond all that are counted. -/
  | codeTooLarge
  /-- A number in base sixty with more parts than a floating-point number can hold. -/
  | numberTooLarge
  /-- More nodes that hang on each other than are followed. -/
  | tooDeep
  deriving DecidableEq, Repr

end ChangelogViews
