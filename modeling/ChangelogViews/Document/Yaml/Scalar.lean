import ChangelogViews.Document.Yaml.Cursor
import ChangelogViews.Document.Yaml.Fault
import ChangelogViews.Document.Json
import ChangelogViews.Text.Loose

/-!
# The text of a scalar

Scalars are written in five ways: plain, in single or double marks, and as a block of lines that is
kept or folded. Inside a scalar a single end of line counts as a space, and each further one as
itself.
-/

namespace ChangelogViews.Yaml

/-- A text read so far, in order, and the place behind it. The text is made of characters, or of signs
where it may hold surrogates. -/
structure Reading (α : Type) where
  text : List α
  cursor : Cursor

namespace Reading

variable {α : Type}

def size (r : Reading α) : Nat := r.cursor.rest.length

def add (r : Reading α) (text : List α) (cursor : Cursor) : Reading α := ⟨r.text ++ text, cursor⟩

def signs (r : Reading Char) : Reading Sign := ⟨r.text.map .char, r.cursor⟩

end Reading

abbrev Reading.loop {α : Type} (step : Reading α → Except YamlFault (Bool × Reading α))
    (c : Cursor) : Except YamlFault (Reading α) :=
  whileShrinking Reading.size step ⟨[], c⟩

/-- One line break counts as a space, and those after it as themselves. -/
def foldBreaks (first breaks : List Char) : List Char :=
  if first ≠ ['\n'] then first ++ breaks
  else if breaks.isEmpty then [' ']
  else breaks

/-- The line breaks at the front with the gaps around them. No document may end among them. -/
def quotedBreaks (c : Cursor) : Except YamlFault (Reading Char) :=
  Reading.loop (fun r =>
    if r.cursor.atSeparator then .error .token
    else
      let c := r.cursor.skipWhile fun ch => ch == ' ' || ch == '\t'
      if isBreak c.peek then
        let (text, c) := c.lineBreak
        .ok (true, r.add text c)
      else .ok (false, r.add [] c)) c

def escapedLetters : List (Char × Nat) :=
  [('0', 0x00), ('a', 0x07), ('b', 0x08), ('t', 0x09), ('\t', 0x09), ('n', 0x0a), ('v', 0x0b),
   ('f', 0x0c), ('r', 0x0d), ('e', 0x1b), (' ', 0x20), ('"', 0x22), ('\\', 0x5c), ('/', 0x2f),
   ('N', 0x85), ('_', 0xa0), ('L', 0x2028), ('P', 0x2029)]

/-- How many digits follow a letter that announces a code point. -/
def codeLength? : Char → Option Nat
  | 'x' => some 2
  | 'u' => some 4
  | 'U' => some 8
  | _ => none

/-- The code point that is written in digits behind a letter at the cursor, and the place behind
it. -/
def codeAt? (c : Cursor) : Option (Nat × Cursor) :=
  match codeLength? c.peek with
  | none => none
  | some length =>
    let digits := c.next.rest.take length
    if digits.length = length && digits.all isHexDigit then
      some ((Json.hexNumber? digits).getD 0, c.next.forward length)
    else none

def signOfCode (code : Nat) : Except YamlFault Sign :=
  if code < 0x110000 then .ok (.ofCode code)
  else if code < 0x80000000 then .error .scalar
  else .error .codeTooLarge

/-- What is escaped by the backslash before `c`. -/
def escapeAt (c : Cursor) : Except YamlFault (Reading Sign) :=
  match escapedLetters.find? (·.1 == c.peek), codeLength? c.peek with
  | some (_, code), _ => .ok ⟨[.ofCode code], c.next⟩
  | none, some _ =>
    match codeAt? c with
    | some (code, c) => return ⟨[← signOfCode code], c⟩
    | none => .error .token
  | none, none =>
    if isBreak c.peek then return (← quotedBreaks c.lineBreak.2).signs else .error .token

/-- The signs up to a gap or the closing mark. -/
def quotedRun (double : Bool) (c : Cursor) : Except YamlFault (Reading Sign) :=
  Reading.loop (fun r =>
    let stops (ch : Char) := ch == '\'' || ch == '"' || ch == '\\' || isGapOrEnd ch
    let (run, c) := r.cursor.takeWhile (!stops ·)
    let r := r.add (run.map .char) c
    let ch := c.peek
    if !double && ch == '\'' && c.ahead 1 == '\'' then
      .ok (true, r.add [.char '\''] (c.forward 2))
    else if (double && ch == '\'') || (!double && (ch == '"' || ch == '\\')) then
      .ok (true, r.add [.char ch] c.next)
    else if double && ch == '\\' then do
      let escape ← escapeAt c.next
      return (true, r.add escape.text escape.cursor)
    else .ok (false, r)) c

/-- The gap at the front: spaces that are kept, or ends of line. -/
def quotedGap (c : Cursor) : Except YamlFault (Reading Char) :=
  let (spaces, c) := c.takeWhile fun ch => ch == ' ' || ch == '\t'
  if c.atEnd then .error .token
  else if isBreak c.peek then do
    let (first, c) := c.lineBreak
    let breaks ← quotedBreaks c
    return ⟨foldBreaks first breaks.text, breaks.cursor⟩
  else .ok ⟨spaces, c⟩

/-- The scalar between marks, the first of which is at the cursor. -/
def quotedScalar (double : Bool) (c : Cursor) : Except YamlFault (Reading Sign) := do
  let mark := c.peek
  let first ← quotedRun double c.next
  let whole ← whileShrinking Reading.size (fun r =>
    if r.cursor.peek == mark then .ok (false, r)
    else do
      let gap ← quotedGap r.cursor
      let run ← quotedRun double gap.cursor
      return (true, r.add (gap.signs.text ++ run.text) run.cursor)) first
  return ⟨whole.text, whole.cursor.next⟩

/-- A plain scalar, and whether it ended at the start of a line. -/
structure PlainReading where
  reading : Reading Char
  gap : List Char
  newLine : Bool

def endsPlain (inFlow : Bool) (ch after : Char) : Bool :=
  isGapOrEnd ch
    || (ch == ':' && (isGapOrEnd after || (inFlow && [',', '[', ']', '\x7b', '\x7d'].contains after)))
    || (inFlow && [',', '?', '[', ']', '\x7b', '\x7d'].contains ch)

def plainRun (inFlow : Bool) : List Char → Nat
  | [] => 0
  | ch :: rest =>
    if endsPlain inFlow ch (rest.headD endMark) then 0 else plainRun inFlow rest + 1

/-- Line breaks behind the first one, and whether a document ends there. -/
structure PlainBreaks where
  breaks : List Char
  separated : Bool
  cursor : Cursor

def plainBreaks (c : Cursor) : PlainBreaks :=
  repeatShrinking (fun p => p.cursor.rest.length) (fun p =>
    if p.cursor.atSeparator && p.cursor.column = 0 then (false, { p with separated := true })
    else
      let c := p.cursor.skipSpaces
      if isBreak c.peek then
        let (text, c) := c.lineBreak
        (true, { p with breaks := p.breaks ++ text, cursor := c })
      else (false, { p with cursor := c })) ⟨[], false, c⟩

/-- The spaces and line breaks at the front, and whether they hold a line break. There is nothing of them
where a document ends. -/
def plainGap (c : Cursor) : List Char × Bool × Cursor :=
  let (spaces, c) := c.takeWhile (· == ' ')
  if isBreak c.peek then
    let (first, c) := c.lineBreak
    let more := plainBreaks c
    (if more.separated then [] else foldBreaks first more.breaks, true, more.cursor)
  else (spaces, false, c)

/-- The plain scalar at the cursor, whose further lines stand to the right of `indent`. -/
def plainScalar (inFlow : Bool) (indent : Int) (c : Cursor) : Except YamlFault PlainReading :=
  whileShrinking (fun p => p.reading.size) (fun p =>
    let c := p.reading.cursor
    let length := plainRun inFlow c.rest
    if c.peek == '#' || length = 0 then .ok (false, p)
    else
      let text := p.gap ++ c.rest.take length
      let (gap, newLine, c) := plainGap (c.forward length)
      let next : PlainReading := ⟨p.reading.add text c, gap, newLine⟩
      let ends := gap.isEmpty || c.peek == '#' || (!inFlow && (c.column : Int) ≤ indent)
      .ok (!ends, next)) ⟨⟨[], c⟩, [], false⟩

/-- What becomes of the line breaks behind a block. -/
inductive Chomping where
  | clip
  | strip
  | keep
  deriving DecidableEq, Repr

/-- The head of a block: its chomping, and its indentation if that is given. -/
structure BlockHead where
  chomping : Chomping
  increment : Option Nat

def chomping? : Char → Option Chomping
  | '+' => some .keep
  | '-' => some .strip
  | _ => none

def increment? (ch : Char) : Except YamlFault (Option Nat) :=
  if ch == '0' then .error .token
  else if ch.isDigit then .ok (some (ch.toNat - '0'.toNat))
  else .ok none

/-- The head of a block: a sign and a digit, each of them once at most. -/
def blockHead (c : Cursor) : Except YamlFault (BlockHead × Cursor) := do
  let (head, c) : BlockHead × Cursor ←
    match chomping? c.peek with
    | some chomping => do
      let increment ← increment? c.next.peek
      pure (⟨chomping, increment⟩, if increment.isSome then c.next.next else c.next)
    | none => do
      match ← increment? c.peek with
      | none => pure (⟨.clip, none⟩, c)
      | some n =>
        match chomping? c.next.peek with
        | some chomping => pure (⟨chomping, some n⟩, c.next.next)
        | none => pure (⟨.clip, some n⟩, c.next)
  if isSpaceOrEnd c.peek then return (head, c) else throw .token

def restOfLine (c : Cursor) : Except YamlFault Cursor :=
  let c := c.skipSpaces.skipComment
  if isBreakOrEnd c.peek then .ok c.lineBreak.2 else .error .token

/-- Empty lines, the widest column that was seen on them, and the place behind them. -/
structure EmptyLines where
  text : List Char
  widest : Nat
  cursor : Cursor

/-- The empty lines before a block and the spaces of its first line. -/
def blockStart (c : Cursor) : EmptyLines :=
  repeatShrinking (fun e => e.cursor.rest.length) (fun e =>
    let c := e.cursor
    if c.peek == ' ' then (true, ⟨e.text, max e.widest c.next.column, c.next⟩)
    else if isBreak c.peek then
      let (text, c) := c.lineBreak
      (true, ⟨e.text ++ text, e.widest, c⟩)
    else (false, e)) ⟨[], 0, c⟩

def skipIndent (column : Nat) (c : Cursor) : Cursor :=
  c.forward ((c.rest.takeWhile (· == ' ')).take (column - c.column)).length

def blockBreaks (indent : Nat) (c : Cursor) : List Char × Cursor :=
  let lines := repeatShrinking (fun e => e.cursor.rest.length) (fun e =>
    if isBreak e.cursor.peek then
      let (text, c) := e.cursor.lineBreak
      (true, { e with text := e.text ++ text, cursor := skipIndent indent c })
    else (false, e)) (⟨[], 0, skipIndent indent c⟩ : EmptyLines)
  (lines.text, lines.cursor)

/-- The lines of a block read so far: the text, the end of the last line, and the empty lines since. -/
structure BlockReading where
  text : List Char
  lineEnd : List Char
  breaks : List Char
  cursor : Cursor

def beginsWithGap (c : Cursor) : Bool := c.peek == ' ' || c.peek == '\t'

/-- The next line of a block, and whether another follows it. -/
def blockLine (folded : Bool) (indent : Nat) (b : BlockReading) : Bool × BlockReading :=
  let (line, c) := b.cursor.takeWhile (!isBreakOrEnd ·)
  let (lineEnd, c) := c.lineBreak
  let (breaks, c) := blockBreaks indent c
  let text := b.text ++ b.breaks ++ line
  if c.column = indent && !c.atEnd then
    let joint :=
      if folded && lineEnd == ['\n'] && !beginsWithGap b.cursor && !beginsWithGap c then
        (if breaks.isEmpty then [' '] else [])
      else lineEnd
    (true, ⟨text ++ joint, lineEnd, breaks, c⟩)
  else (false, ⟨text, lineEnd, breaks, c⟩)

/-- The block scalar whose mark is at the cursor, inside a collection at column `outer`. -/
def blockScalar (folded : Bool) (outer : Int) (c : Cursor) :
    Except YamlFault (Reading Char) := do
  let (head, c) ← blockHead c.next
  let c ← restOfLine c
  let least := (max (outer + 1) 1).toNat
  let (breaks, indent, c) :=
    match head.increment with
    | none =>
      let lines := blockStart c
      (lines.text, max least lines.widest, lines.cursor)
    | some n =>
      let indent := least + n - 1
      let (breaks, c) := blockBreaks indent c
      (breaks, indent, c)
  let start : BlockReading := ⟨[], [], breaks, c⟩
  let b ←
    if c.column = indent && !c.atEnd then
      whileShrinking (fun b => b.cursor.rest.length) (fun b => .ok (blockLine folded indent b)) start
    else .ok start
  let tail := match head.chomping with
    | .strip => []
    | .clip => b.lineEnd
    | .keep => b.lineEnd ++ b.breaks
  return ⟨b.text ++ tail, b.cursor⟩

end ChangelogViews.Yaml
