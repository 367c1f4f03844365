/-!
# Paths

A path is a list of names behind an anchor, which is empty for a path that starts from the working
directory. Empty names and single dots say nothing and are left out; two dots stay, since what they
mean depends on the files.
-/

namespace ChangelogViews

structure Path where
  anchor : String
  parts : List String
  deriving DecidableEq, Inhabited, Repr

namespace Path

/-- The anchor of a text. Just two slashes at the front are another anchor than one or many. -/
def anchorOf : List Char → String
  | '/' :: '/' :: '/' :: _ => "/"
  | '/' :: '/' :: _ => "//"
  | '/' :: _ => "/"
  | _ => ""

/-- The path that a text writes. -/
def ofText (s : String) : Path :=
  let parts := (s.toList.splitOn '/').map String.ofList
  ⟨anchorOf s.toList, parts.filter fun part => part ≠ "" && part ≠ "."⟩

def text (p : Path) : String :=
  if p.anchor = "" && p.parts.isEmpty then "." else p.anchor ++ "/".intercalate p.parts

def append (p : Path) (parts : List String) : Path := { p with parts := p.parts ++ parts }

/-- The order of paths: that of their names one behind the other, with the anchor in front. -/
def comesFirst (p q : Path) : Bool :=
  let names (p : Path) := if p.anchor = "" then p.parts else p.anchor :: p.parts
  !decide (names q < names p)

def name (p : Path) : String := p.parts.getLastD ""

/-- The characters of a name before and behind its last dot. A dot at either end is none. -/
def splitName (cs : List Char) : List Char × List Char :=
  let behind := (cs.reverse.takeWhile (· != '.')).reverse
  let before := cs.take (cs.length - behind.length - 1)
  if behind.length = cs.length || before.isEmpty || behind.isEmpty then (cs, [])
  else (before, '.' :: behind)

def stem (p : Path) : String := String.ofList (splitName p.name.toList).1

def suffix (p : Path) : String := String.ofList (splitName p.name.toList).2

def hasNull (s : String) : Bool := s.toList.contains '\x00'

/-- A name that a directory can hold, so not the way back out of it. -/
def leadsIn (name : String) : Bool := name != ".." && !hasNull name

/-- A name with more bytes than one directory can hold. -/
def isLongName (name : String) : Bool := Nat.blt 255 name.utf8ByteSize

/-- A path with more bytes than are followed. -/
def isLong (p : Path) : Bool := Nat.ble 4096 p.text.utf8ByteSize

end Path
end ChangelogViews
