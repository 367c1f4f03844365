import ChangelogViews.Document.Value
import ChangelogViews.Text.Blank

/-!
# Files of variables

A file of variables holds statements such as `NAME=value`, each on lines of its own. A statement that
cannot be read is left out, and only its line is noted. In the values `${NAME}` stands for what is
known under the name: an earlier variable of the file or else of the environment.
-/

namespace ChangelogViews.EnvFile

inductive Unread where
  | unread
  deriving DecidableEq, Repr

/-- Reading from the front of some characters. What was read stays read when the reading fails. -/
abbrev Scan (α : Type) := ExceptT Unread (StateM (List Char)) α

namespace Scan

/-- Reads the characters up to the first that `p` refuses. -/
def span (p : Char → Bool) : Scan (List Char) := fun cs => (.ok (cs.takeWhile p), cs.dropWhile p)

def span1 (p : Char → Bool) : Scan (List Char) := do
  match (← get).head? with
  | some c => if p c then span p else throw .unread
  | none => throw .unread

def peek : Scan (Option Char) := return (← get).head?

def skip : Scan Unit := modify List.tail

end Scan

def isSpace (c : Char) : Bool := Text.isBlank c && c != '\n'

def inLine (c : Char) : Bool := c != '\n'

/-- The characters up to the mark that closes a quotation, and those behind it. The character behind a
backslash closes nothing. -/
def closing (mark : Char) : List Char → Option (List Char × List Char)
  | [] => none
  | [c] => if c = mark then some ([], []) else none
  | c :: d :: rest =>
    if c = mark then some ([], d :: rest)
    else if c = '\\' then (closing mark rest).map fun (body, after) => (c :: d :: body, after)
    else (closing mark (d :: rest)).map fun (body, after) => (c :: body, after)

def singleEscape? : Char → Option Char
  | '\\' => some '\\'
  | '\'' => some '\''
  | _ => none

def doubleEscape? : Char → Option Char
  | '\\' => some '\\'
  | '\'' => some '\''
  | '"' => some '"'
  | 'a' => some '\x07'
  | 'b' => some '\x08'
  | 'f' => some '\x0c'
  | 'n' => some '\n'
  | 'r' => some '\r'
  | 't' => some '\t'
  | 'v' => some '\x0b'
  | _ => none

/-- The characters that are meant, where a backslash and what it escapes are one. -/
def unescape (escape? : Char → Option Char) : List Char → List Char
  | [] => []
  | [c] => [c]
  | c :: d :: rest =>
    match if c = '\\' then escape? d else none with
    | some meant => meant :: unescape escape? rest
    | none => c :: unescape escape? (d :: rest)

/-- The characters before a comment, which begins with a blank and a number sign. -/
def beforeRemark : List Char → List Char
  | [] => []
  | [c] => [c]
  | c :: d :: rest =>
    if Text.isBlank c && d == '#' then [] else c :: beforeRemark (d :: rest)

def quotedValue (mark : Char) (escape? : Char → Option Char) : Scan (List Char) := do
  match closing mark (← get).tail with
  | some (body, after) =>
    set after
    return unescape escape? body
  | none => throw .unread

/-- A value behind the blanks of `gap`: a quotation, or the rest of the line without blanks and comments. -/
def value (gap : List Char) : Scan String := do
  match ← Scan.peek with
  | some '\'' => return String.ofList (← quotedValue '\'' singleEscape?)
  | some '"' => return String.ofList (← quotedValue '"' doubleEscape?)
  | _ =>
    let line := beforeRemark (gap ++ (← Scan.span inLine))
    return String.ofList (Text.trimEnd (line.dropWhile isSpace))

def exporting : List Char := "export".toList

def skipExport : Scan Unit := do
  let cs ← get
  let behind := cs.drop exporting.length
  if exporting.isPrefixOf cs && behind.head?.any isSpace then set (behind.dropWhile isSpace)

/-- A name, plain or between single quotes; a comment has none. -/
def name : Scan (Option String) := do
  match ← Scan.peek with
  | some '#' => return none
  | some '\'' =>
    let body := (← get).tail
    let within := body.takeWhile (· != '\'')
    match body.dropWhile (· != '\'') with
    | _ :: after =>
      if within.isEmpty then throw .unread
      set after
      return some (String.ofList within)
    | [] => throw .unread
  | _ => return some (String.ofList (← Scan.span1 fun c => c != '=' && c != '#' && !Text.isBlank c))

/-- The end of a statement: blanks, a comment and the end of the line. -/
def ending : Scan Unit := do
  let _ ← Scan.span isSpace
  match ← Scan.peek with
  | some '#' => let _ ← Scan.span inLine
  | _ => pure ()
  match ← Scan.peek with
  | none => return
  | some '\n' => Scan.skip
  | some _ => throw .unread

/-- One statement with the blank lines before it: a name and its value, if it has one. -/
def statement : Scan (Option (String × Option String)) := do
  let _ ← Scan.span Text.isBlank
  match ← Scan.peek with
  | none => return none
  | some _ =>
    skipExport
    let name ← name
    let _ ← Scan.span isSpace
    let given ← do
      match ← Scan.peek with
      | some '=' =>
        Scan.skip
        let gap ← Scan.span isSpace
        pure (some (← value gap))
      | _ => pure none
    ending
    return name.map (·, given)

/-- What a file of variables holds: its variables in order, and the lines of the statements that
cannot be read. -/
structure Content where
  entries : List (String × Option String)
  unread : List Nat
  deriving DecidableEq, Repr

def Content.empty : Content := ⟨[], []⟩

def afterLine (cs : List Char) : List Char := (cs.dropWhile inLine).tail

/-- The statements from a line on. -/
def readFrom (line : Nat) (cs : List Char) : Content :=
  let (result, stopped) := ExceptT.run statement cs
  let rest := match result with
    | .ok _ => stopped
    | .error _ => afterLine stopped
  if rest.length < cs.length then
    let later := readFrom (line + (cs.count '\n' - rest.count '\n')) rest
    match result with
    | .ok (some entry) => { later with entries := entry :: later.entries }
    | .ok none => later
    | .error _ => { later with unread := line :: later.unread }
  else .empty
termination_by cs.length

def dropMark : List Char → List Char
  | '\ufeff' :: cs => cs
  | cs => cs

def read (cs : List Char) : Content := readFrom 1 (dropMark cs)

/-- The text with the value of each name in place of a reference to it. A name that has none gives
way to the text that the reference proposes. -/
def resolve (known : String → Option String) : List Char → List Char
  | [] => []
  | '$' :: '\x7b' :: rest =>
    let name := rest.takeWhile fun c => c != '\x7d' && c != ':'
    match _h : rest.dropWhile fun c => c != '\x7d' && c != ':' with
    | '\x7d' :: after =>
      ((known (String.ofList name)).getD "").toList ++ resolve known after
    | ':' :: '-' :: more =>
      match _h2 : more.dropWhile (· != '\x7d') with
      | _ :: after =>
        let proposed := String.ofList (more.takeWhile (· != '\x7d'))
        ((known (String.ofList name)).getD proposed).toList ++ resolve known after
      | [] => '$' :: '\x7b' :: resolve known rest
    | _ => '$' :: '\x7b' :: resolve known rest
  | c :: rest => c :: resolve known rest
termination_by cs => cs.length
decreasing_by
  all_goals grind [List.IsSuffix.length_le, List.dropWhile_suffix]

/-- What a name stands for: the last value before in the file, or else in the environment. A name
without a value stands for nothing. -/
def meaning (environment : List (String × String)) (before : List (String × Option String))
    (name : String) : Option String :=
  match member? before name with
  | some given => some (given.getD "")
  | none => member? environment name

/-- The variables with their references resolved, each name once. -/
def Content.resolved (content : Content) (environment : List (String × String)) :
    List (String × Option String) :=
  content.entries.foldl (fun before (name, given) =>
    setMember before name <| given.map fun text =>
      String.ofList (resolve (meaning environment before) text.toList)) []

end ChangelogViews.EnvFile
