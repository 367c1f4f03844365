import ChangelogViews.Files.Glob

/-!
# What is seen of files

What a program learns of files by asking for paths. A tree of files answers all questions, but for paths
that are too long to follow.
-/

namespace ChangelogViews

/-- The calls of `glob` and of the path operations that `expand_schema_paths` makes. Each may fail. -/
structure FileView where
  expandUser : Path → Except Foreign Path
  glob : (pattern : Path) → Except Foreign (List String)
  isDir : Path → Except Foreign Bool
  isFile : Path → Except Foreign Bool
  iterdir : Path → Except Foreign (List Path)
  resolve : Path → Except Foreign Path

/-- A regular file resolves to a path that resolves to itself, and nothing tells that it is no regular
file. -/
def FileView.ResolvesFiles (view : FileView) : Prop :=
  ∀ file path, view.isFile file = .ok true → view.resolve file = .ok path →
    view.resolve path = .ok path ∧ view.isFile path ≠ .ok false

namespace FileTree

def holdsAt (t : FileTree) (holds : Place → Bool) (p : Path) : Except Foreign Bool :=
  match t.reach p with
  | .ok place => .ok (holds place)
  | .error (.tooLong path) => .error (.ofPath (.tooLong path))
  | .error _ => .ok false

def iterdir (t : FileTree) (p : Path) : Except Foreign (List Path) :=
  match t.reach p with
  | .ok place =>
    if t.isDirectory place then .ok ((t.names place).map fun name => p.append [name])
    else .error (.ofPath (.notDirectory p.text))
  | .error fault => .error (.ofPath fault)

def view (t : FileTree) : FileView where
  expandUser := t.expandHome
  glob pattern :=
    if Glob.isUnsearchable pattern then .error .nullInName else .ok (Glob.find t pattern)
  isDir := t.holdsAt t.isDirectory
  isFile := t.holdsAt t.isFile
  iterdir := t.iterdir
  resolve p := .ok (t.resolve p)

end FileTree
end ChangelogViews
