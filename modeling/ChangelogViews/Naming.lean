/-!
# Names

The rules that names have to follow, as patterns, and the names of tables and views. Where a name is
matched inside a line the end of the pattern also stands before one final line feed; a configured value
has to match to its very end.
-/

namespace ChangelogViews

/-- The patterns that names are matched with. -/
inductive NameRule where
  | word
  | identifier
  | segment
  | project
  deriving DecidableEq, Repr

namespace NameRule

def pattern : NameRule → String
  | .word => "^[a-zA-Z0-9_]+$"
  | .identifier => "^[A-Za-z_][A-Za-z0-9_]*$"
  | .segment => "^[^/]+$"
  | .project => "^[a-z][a-z0-9-]\x7b0,29\x7d$"

def isWordChar (c : Char) : Bool := c.isAlphanum || c == '_'

def isProjectChar (c : Char) : Bool := c.isLower || c.isDigit || c == '-'

/-- The characters follow the pattern to their end. -/
def holds : NameRule → List Char → Bool
  | .word, cs => !cs.isEmpty && cs.all isWordChar
  | .identifier, c :: rest => isWordChar c && !c.isDigit && rest.all isWordChar
  | .identifier, [] => false
  | .segment, cs => !cs.isEmpty && cs.all (· != '/')
  | .project, c :: rest => c.isLower && rest.all isProjectChar && Nat.ble rest.length 29
  | .project, [] => false

/-- The characters before one final line feed. -/
def beforeFeed (cs : List Char) : List Char :=
  match cs.reverse with
  | '\n' :: rest => rest.reverse
  | _ => cs

/-- The name matches the pattern, whose end stands before a final line feed too. -/
def accepts (rule : NameRule) (name : String) : Bool :=
  rule.holds name.toList || rule.holds (beforeFeed name.toList)

/-- The name follows the pattern to its very end. -/
def acceptsExactly (rule : NameRule) (name : String) : Bool := rule.holds name.toList

end NameRule

namespace Names

def part : Option String → String
  | some name => name
  | none => "None"

/-- `raw_changelog_table_name`. -/
def rawChangelog (first : Option String) : String := s!"{part first}_raw_changelog"

/-- `top_view_name`. -/
def top (first schema : Option String) : String := s!"{part first}_schema_{part schema}_latest"

/-- `snapshot_view_name`. -/
def snapshot (first schema : Option String) : String := s!"{top first schema}_snapshot"

end Names
end ChangelogViews
