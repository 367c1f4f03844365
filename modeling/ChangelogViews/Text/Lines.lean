import ChangelogViews.Text.Blank

/-!
# Lines

Cutting a text into lines and indenting them. A line ends at a line feed, a carriage return, the
two together, or at one of the other separators of lines and paragraphs.
-/

namespace ChangelogViews.Text

/-- Code points that end a line. -/
def lineEndRanges : List (Nat × Nat) :=
  [(0x0a, 0x0d), (0x1c, 0x1e), (0x85, 0x85), (0x2028, 0x2029)]

def isLineEnd (c : Char) : Bool := inRanges lineEndRanges c

def pushFirst (c : Char) : List (List Char) → List (List Char)
  | [] => [[c]]
  | line :: lines => (c :: line) :: lines

/-- The lines of a text, each with its ending. -/
def linesOf : List Char → List (List Char)
  | [] => []
  | '\r' :: '\n' :: rest => ['\r', '\n'] :: linesOf rest
  | c :: rest => if isLineEnd c then [c] :: linesOf rest else pushFirst c (linesOf rest)

/-- A line of `indent`, moved to the right unless there is nothing to see on it. -/
def indentLine (margin line : List Char) : List Char :=
  if line.all isBlank then line else margin ++ line

/-- `indent`. -/
def indent (margin s : String) : String :=
  String.ofList ((linesOf s.toList).flatMap (indentLine margin.toList))

/-- The text with a line feed for each carriage return, alone or before a line feed. -/
def feedsOnly : List Char → List Char
  | [] => []
  | '\r' :: '\n' :: rest => '\n' :: feedsOnly rest
  | c :: rest => (if c = '\r' then '\n' else c) :: feedsOnly rest

end ChangelogViews.Text
