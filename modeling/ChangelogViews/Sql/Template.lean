/-!
# Templates of expressions

An SQL expression with places for the expression that holds a JSON text and for a path inside that
text. What is put into a place is never read as a place itself.
-/

namespace ChangelogViews.Sql

inductive Piece where
  | source
  | path
  | text (s : String)
  deriving DecidableEq, Repr

/-- The `template` of a `ResolvedColumn`, in parts. -/
abbrev Template := List Piece

def Piece.render (source path : String) : Piece → String
  | .source => source
  | .path => path
  | .text s => s

namespace Template

/-- `render`: the template formatted with `source` and `path`. -/
def render (t : Template) (source path : String) : String :=
  String.join (t.map (Piece.render source path))

/-- The template as a text, its places in braces. -/
def pattern (t : Template) : String := t.render "\x7bsource\x7d" "\x7bpath\x7d"

def fixed (s : String) : Template := [.text s]

def extract (function member : String) : Template :=
  [.text (function ++ "("), .source, .text ", '", .path, .text (member ++ "')")]

def within (before : String) (t : Template) (after : String) : Template :=
  .text before :: t ++ [.text after]

def cast (function : String) (t : Template) (sqlType : String) : Template :=
  t.within (function ++ "(") s!" AS {sqlType})"

def coalesce (ts : List Template) : Template :=
  within "COALESCE(" (List.intercalate [.text ", "] ts) ")"

end Template
end ChangelogViews.Sql
