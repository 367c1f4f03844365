import ChangelogViews.Files.Path
import ChangelogViews.Error

/-!
# Files

A tree of directories and files with a working directory. What is not known of it is not there.
-/

namespace ChangelogViews

inductive FileEntry where
  | file (bytes : List UInt8)
  | directory
  deriving DecidableEq, Repr

/-- The names that lead from the root to a place. -/
abbrev Place := List String

/-- The place of the working directory and what is known of other places, with the home directories of
users. The working directory is reached straight. -/
structure FileTree where
  base : Place
  homes : List (String × Path)
  entries : List (Place × FileEntry)
  straight : base.all Path.leadsIn = true := by rfl
  deriving Repr

inductive Lookup where
  | missing
  | notDirectory
  | tooLong
  | found (place : Place)
  deriving DecidableEq, Repr

namespace FileTree

/-- What stands at a place. One with the working directory or another place below it is a directory. -/
def entry? (t : FileTree) (place : Place) : Option FileEntry :=
  if place.isPrefixOf t.base then some .directory
  else
    match t.entries.reverse.find? (·.1 == place) with
    | some (_, entry) => some entry
    | none =>
      if t.entries.any fun (other, _) => place.isPrefixOf other then some .directory else none

def isDirectory (t : FileTree) (place : Place) : Bool := t.entry? place == some .directory

def isFile (t : FileTree) (place : Place) : Bool :=
  match t.entry? place with
  | some (.file _) => true
  | _ => false

def placesTo (place : Place) : List Place :=
  (List.range place.length).map fun n => place.take (n + 1)

def places (t : FileTree) : List Place :=
  (placesTo t.base ++ t.entries.flatMap fun (place, _) => placesTo place).eraseDups

def names (t : FileTree) (place : Place) : List String :=
  t.places.filterMap fun other => if other.dropLast = place then other.getLast? else none

def below (t : FileTree) (place : Place) : List Place :=
  t.places.filterMap fun other =>
    if place.isPrefixOf other && other ≠ place then some (other.drop place.length) else none

/-- Follows names from a place, where two dots lead to the parent. -/
def follow (t : FileTree) (place : Place) : List String → Lookup
  | [] => .found place
  | name :: rest =>
    if !t.isDirectory place then .notDirectory
    else if Path.isLongName name then .tooLong
    else if name = ".." then t.follow place.dropLast rest
    else if (t.entry? (place ++ [name])).isSome then t.follow (place ++ [name]) rest
    else .missing

/-- The home directory that a text names. Slashes at its end say nothing, and no text but slashes is
the top of all files. There is none that would be a home directory again. -/
def homeOf (text : String) : Option Path :=
  let cs := (text.toList.reverse.dropWhile (· = '/')).reverse
  match cs with
  | [] => some ⟨"/", []⟩
  | '~' :: _ => none
  | _ => some (.ofText (String.ofList cs))

def startOf (t : FileTree) (p : Path) : Place := if p.anchor = "" then t.base else []

def locate (t : FileTree) (p : Path) : Lookup :=
  if p.isLong then .tooLong else t.follow (t.startOf p) p.parts

def place? (t : FileTree) (p : Path) : Option Place :=
  match t.locate p with
  | .found place => some place
  | _ => none

def pathOf (place : Place) : Path := ⟨"/", place⟩

/-- The place that names name from another, whatever stands there. -/
def walk (place : Place) (names : List String) : Place :=
  names.foldl (fun place name => if name = ".." then place.dropLast else place ++ [name]) place

/-- `resolve`. -/
def resolve (t : FileTree) (p : Path) : Path := pathOf (walk (t.startOf p) p.parts)

/-- The place that a path leads to, or why there is none. -/
def reach (t : FileTree) (p : Path) : Except FileFault Place :=
  if p.parts.any Path.hasNull then .error .nullInPath
  else
    match t.locate p with
    | .found place => .ok place
    | .missing => .error (.notFound p.text)
    | .notDirectory => .error (.notDirectory p.text)
    | .tooLong => .error (.tooLong p.text)

def readBytes (t : FileTree) (p : Path) : Except FileFault (List UInt8) := do
  match t.entry? (← t.reach p) with
  | some (.file bytes) => return bytes
  | some .directory => throw (.isDirectory p.text)
  | none => throw (.notFound p.text)

/-- `expanduser`: the home directory in place of a tilde and a user's name. -/
def expandHome (t : FileTree) (p : Path) : Except Foreign Path :=
  match p.anchor, p.parts with
  | "", first :: rest =>
    match first.toList with
    | '~' :: user =>
      if user.contains '\x00' then .error .nullInName
      else
        match member? t.homes (String.ofList user) with
        | some home => .ok (home.append rest)
        | none => .error .noHome
    | _ => .ok p
  | _, _ => .ok p

end FileTree
end ChangelogViews
