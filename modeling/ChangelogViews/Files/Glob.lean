import ChangelogViews.Files.Tree

/-!
# Patterns of paths

A name in a pattern may hold a star for any text, a question mark for any character, and a set of
characters in brackets; two stars alone stand for any number of directories. Names that begin with a
dot are found only by a pattern that does so too.
-/

namespace ChangelogViews.Glob

inductive Range where
  | one (c : Char)
  | span (first last : Char)
  deriving DecidableEq, Repr

inductive Piece where
  | star
  | any
  | char (c : Char)
  | set (negated : Bool) (ranges : List Range)
  deriving DecidableEq, Repr

/-- What is written in brackets, cut at the dashes that make ranges. At least `least` characters stand
before such a dash, and something behind it. -/
def chunks (least : Nat) (cs : List Char) : List (List Char) :=
  match _h : (cs.drop least).dropWhile (· != '-') with
  | _ :: c :: rest => cs.take (cs.length - rest.length - 2) :: chunks 2 (c :: rest)
  | _ => [cs]
  termination_by cs.length
  decreasing_by
    have short := (List.dropWhile_suffix (· != '-') (l := cs.drop least)).length_le
    simp only [_h, List.length_cons, List.length_drop] at short
    simp only [List.length_cons]
    omega

/-- The chunks without the ranges that go backwards, from the last one on. -/
def dropBackward : List (List Char) → List (List Char)
  | [] => []
  | chunk :: rest =>
    match chunk.getLast?, dropBackward rest with
    | some first, (last :: more) :: later =>
      if last < first then (chunk.dropLast ++ more) :: later else chunk :: (last :: more) :: later
    | _, later => chunk :: later

def rangesOf : List (List Char) → List Range
  | [] => []
  | chunk :: rest =>
    let between := match chunk.getLast?, rest with
      | some first, (last :: _) :: _ => [.span first last]
      | _, _ => []
    chunk.map .one ++ between ++ rangesOf rest

/-- The set that is written in brackets. An exclamation mark in front negates it, also where it comes
to the front because a range goes backwards. A dash right behind it stands for itself. -/
def setOf (cs : List Char) : Piece :=
  match dropBackward (chunks (if cs.head? = some '!' then 2 else 1) cs) with
  | ['!'] :: chunk :: rest => .set true (.one '-' :: rangesOf (chunk :: rest))
  | ('!' :: chunk) :: rest => .set true (rangesOf (chunk :: rest))
  | all => .set false (rangesOf all)

/-- The set behind an opening bracket, and how many characters it takes with the closing one. A
closing bracket that comes first stands for itself. -/
def setAt (cs : List Char) : Option (Piece × Nat) :=
  let sign := if cs.head? = some '!' then 1 else 0
  let body := cs.drop sign
  let lead := if body.head? == some ']' then 1 else 0
  let more := (body.drop lead).takeWhile (· != ']')
  let size := sign + lead + more.length
  if size < cs.length then some (setOf (cs.take size), size + 1) else none

def pieces : List Char → List Piece
  | [] => []
  | '*' :: rest => .star :: pieces rest
  | '?' :: rest => .any :: pieces rest
  | '[' :: rest =>
    match setAt rest with
    | some (piece, size) => piece :: pieces (rest.drop size)
    | none => .char '[' :: pieces rest
  | c :: rest => .char c :: pieces rest
  termination_by cs => cs.length
  decreasing_by all_goals simp only [List.length_cons, List.length_drop]; omega

def Range.holds (c : Char) : Range → Bool
  | .one d => c == d
  | .span first last => first ≤ c && c ≤ last

def Piece.holds (c : Char) : Piece → Bool
  | .star => true
  | .any => true
  | .char d => c == d
  | .set negated ranges => ranges.any (Range.holds c) != negated

def matchesAll : List Piece → List Char → Bool
  | [], cs => cs.isEmpty
  | .star :: pieces, [] => matchesAll pieces []
  | .star :: pieces, c :: cs => matchesAll pieces (c :: cs) || matchesAll (.star :: pieces) cs
  | piece :: pieces, c :: cs => piece.holds c && matchesAll pieces cs
  | _ :: _, [] => false
  termination_by pieces cs => pieces.length + cs.length

def isHidden (name : String) : Bool := name.toList.head? == some '.'

def fits (pattern name : String) : Bool :=
  (isHidden pattern || !isHidden name) && matchesAll (pieces pattern.toList) name.toList

/-- A name with a wildcard in it. -/
def isPattern (part : String) : Bool := part.toList.any fun c => c == '*' || c == '?' || c == '['

/-- A text below a directory. An empty text leaves a slash behind the directory. -/
def join (directory name : String) : String :=
  if directory = "" || directory.toList.getLast? = some '/' then directory ++ name
  else s!"{directory}/{name}"

def placeOf (t : FileTree) (text : String) : Option Place := t.place? (Path.ofText text)

def isDirectory (t : FileTree) (text : String) : Bool :=
  match placeOf t text with
  | some place => t.isDirectory place
  | none => false

/-- What two stars find in a directory: itself, even where it is none, and all below it that is not
hidden. -/
def allBelow (t : FileTree) (directory : String) (onlyDirectories : Bool) : List String :=
  let below : List Place := match placeOf t directory with
    | none => []
    | some place => (t.below place).filter fun names =>
      !names.any isHidden && (!onlyDirectories || t.isDirectory (place ++ names))
  ("" :: below.map ("/".intercalate ·)).map (join directory ·)

def findIn (t : FileTree) (part : String) (onlyDirectories : Bool) (directory : String) :
    List String :=
  if part = "**" then allBelow t directory onlyDirectories
  else if isPattern part then
    match placeOf t directory with
    | none => []
    | some place =>
      let names := (t.names place).filter fun name =>
        fits part name && (!onlyDirectories || t.isDirectory (place ++ [name]))
      names.map (join directory ·)
  else
    let text := join directory part
    if (placeOf t text).isSome then [text] else []

def findBelow (t : FileTree) (directories : List String) : List String → List String
  | [] => directories
  | part :: rest => findBelow t (directories.flatMap (findIn t part !rest.isEmpty)) rest

def plainStart (pattern : Path) : List String := pattern.parts.takeWhile (!isPattern ·)

/-- `glob`, recursive and unsorted. -/
def find (t : FileTree) (pattern : Path) : List String :=
  let start := plainStart pattern
  let rest := pattern.parts.drop start.length
  let found :=
    if rest.isEmpty then (if (t.place? pattern).isSome then [pattern.text] else [])
    else findBelow t [pattern.anchor ++ "/".intercalate start] rest
  found.filter (· ≠ "")

/-- A pattern whose search cannot begin: a directory that no file can lie in has to be listed. -/
def isUnsearchable (pattern : Path) : Bool :=
  (plainStart pattern).length < pattern.parts.length && (plainStart pattern).any Path.hasNull

end ChangelogViews.Glob
