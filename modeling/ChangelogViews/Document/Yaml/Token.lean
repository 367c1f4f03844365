import ChangelogViews.Document.Yaml.Scalar
import ChangelogViews.Text.Digits
import ChangelogViews.Text.Utf8

/-!
# Tokens of YAML

A text is cut into tokens from the left. The start and the end of block collections have no
characters of their own: they follow from the columns. And a key without a mark of its own is known
only by the colon behind it, so what may be such a key is held back until the text decides.
-/

namespace ChangelogViews.Yaml

/-- What a directive says: the version of the language, or what a handle of tags stands for. -/
inductive Directive where
  | version (major : Nat)
  | tag (handle uri : String)
  | other
  deriving DecidableEq, Repr

inductive Token where
  | textEnd
  | directive (d : Directive)
  | documentStart
  | documentEnd
  | blockSequenceStart
  | blockMappingStart
  | blockEnd
  | flowSequenceStart
  | flowSequenceEnd
  | flowMappingStart
  | flowMappingEnd
  | flowEntry
  | blockEntry
  | key
  | value
  | reference (name : String)
  | anchor (name : String)
  | tag (handle : Option String) (suffix : String)
  | scalar (text : LooseText) (plain : Bool)
  deriving DecidableEq, Repr

def wordAt (c : Cursor) : Except YamlFault (String × Cursor) :=
  let (word, c) := c.takeWhile isWordChar
  if word.isEmpty then .error .token else .ok (String.ofList word, c)

/-- A number at the front, with no more digits than a whole number is read from. -/
def numberAt (c : Cursor) : Except YamlFault (Nat × Cursor) :=
  let (digits, c) := c.takeWhile Char.isDigit
  if digits.isEmpty then .error .token
  else if Nat.blt Text.mostDigits digits.length then .error .scalar
  else .ok (digits.foldl (fun n d => n * 10 + (d.toNat - '0'.toNat)) 0, c)

def handleAt (c : Cursor) : Except YamlFault (String × Cursor) :=
  if c.peek ≠ '!' then .error .token
  else
    let (word, after) := c.next.takeWhile isWordChar
    if c.ahead 1 == ' ' then .ok ("!", c.next)
    else if after.peek ≠ '!' then .error .token
    else .ok (String.ofList ('!' :: word ++ ['!']), after.next)

def isAddressChar (c : Char) : Bool := c.isAlphanum || "-;/?:@&=+$,_.!~*'()[]".toList.contains c

/-- The bytes that are written by percent signs at the front. -/
def percentBytes : List Char → Option (List UInt8 × Nat)
  | '%' :: a :: b :: rest =>
    match Json.hexNumber? [a, b] with
    | none => none
    | some n => (percentBytes rest).map fun (bytes, length) => (UInt8.ofNat n :: bytes, length + 3)
  | '%' :: _ => none
  | _ => some ([], 0)

def addressAt (c : Cursor) : Except YamlFault (String × Cursor) := do
  let r : Reading Char ← Reading.loop (fun r => do
    let (run, c) := r.cursor.takeWhile isAddressChar
    let r := r.add run c
    if c.peek ≠ '%' then return (false, r)
    match percentBytes c.rest with
    | none => throw .token
    | some (bytes, length) =>
      match Text.decodeUtf8 bytes with
      | .error _ => throw .token
      | .ok text => return (true, r.add text (c.forward length))) c
  if r.cursor.index = c.index then throw .token
  return (String.ofList r.text, r.cursor)

def versionAt (c : Cursor) : Except YamlFault (Directive × Cursor) := do
  let (major, c) ← numberAt c.skipSpaces
  if c.peek ≠ '.' then throw .token
  let (_, c) ← numberAt c.next
  if isSpaceOrEnd c.peek then return (.version major, c) else throw .token

def tagDirectiveAt (c : Cursor) : Except YamlFault (Directive × Cursor) := do
  let (handle, c) ← handleAt c.skipSpaces
  if c.peek ≠ ' ' then throw .token
  let (uri, c) ← addressAt c.skipSpaces
  if isSpaceOrEnd c.peek then return (.tag handle uri, c) else throw .token

def directiveAt (c : Cursor) : Except YamlFault (Token × Cursor) := do
  let (name, c) ← wordAt c.next
  if !isSpaceOrEnd c.peek then throw .token
  let (d, c) ← match name with
    | "YAML" => versionAt c
    | "TAG" => tagDirectiveAt c
    | _ => pure (Directive.other, c.skipWhile (!isBreakOrEnd ·))
  return (.directive d, ← restOfLine c)

def anchorAt (c : Cursor) : Except YamlFault (String × Cursor) := do
  let (name, c) ← wordAt c.next
  let ends := isGapOrEnd c.peek || "?:,]\x7d%@\x60".toList.contains c.peek
  if ends then return (name, c) else throw .token

def tagAt (c : Cursor) : Except YamlFault (Token × Cursor) := do
  let (token, c) ←
    if c.ahead 1 == '<' then do
      let (uri, c) ← addressAt (c.forward 2)
      if c.peek ≠ '>' then throw .token
      pure (Token.tag none uri, c.next)
    else if isGapOrEnd (c.ahead 1) then pure (Token.tag none "!", c.next)
    else do
      let word := c.next.rest.takeWhile (!isSpaceOrEnd ·)
      let (handle, c) ← if word.contains '!' then handleAt c else pure ("!", c.next)
      let (suffix, c) ← addressAt c
      pure (Token.tag (some handle) suffix, c)
  if isSpaceOrEnd c.peek then return (token, c) else throw .token

/-- A simple key that may turn out to be one: its number among all tokens and its place. A required one stands
where only a key can stand. -/
structure SimpleKey where
  number : Nat
  required : Bool
  index : Nat
  line : Nat
  column : Nat

structure Scan where
  cursor : Cursor
  flowLevel : Nat
  indent : Int
  outer : List Int
  keyAllowed : Bool
  keys : List (Nat × SimpleKey)
  queue : List Token
  given : Nat
  finished : Bool

namespace Scan

def start (text : List Char) : Scan := ⟨.start text, 0, -1, [], true, [], [], 0, false⟩

def emit (s : Scan) (tokens : List Token) : Scan := { s with queue := s.queue ++ tokens }

/-- A simple key that can be none any more: its line is over, or it is too long. -/
def isStale (s : Scan) (key : SimpleKey) : Bool :=
  key.line ≠ s.cursor.line || s.cursor.index - key.index > 1024

def dropStale (s : Scan) : Except YamlFault Scan :=
  if s.keys.any fun (_, key) => s.isStale key && key.required then .error .token
  else .ok { s with keys := s.keys.filter fun (_, key) => !s.isStale key }

def dropKey (s : Scan) : Except YamlFault Scan :=
  if s.keys.any fun (level, key) => level == s.flowLevel && key.required then .error .token
  else .ok { s with keys := s.keys.filter fun (level, _) => level != s.flowLevel }

def saveKey (s : Scan) : Except YamlFault Scan := do
  if !s.keyAllowed then return s
  let c := s.cursor
  let key : SimpleKey := ⟨s.given + s.queue.length,
    s.flowLevel = 0 && s.indent = c.column, c.index, c.line, c.column⟩
  let s ← s.dropKey
  return { s with keys := s.keys ++ [(s.flowLevel, key)] }

/-- Ends the blocks that stand to the right of a column. -/
def unwindTo (column : Int) (indent : Int) : List Int → List Token × Int × List Int
  | [] => if indent > column then ([.blockEnd], -1, []) else ([], indent, [])
  | next :: outer =>
    if indent > column then
      let (ends, rest) := unwindTo column next outer
      (.blockEnd :: ends, rest)
    else ([], indent, next :: outer)

def unwind (s : Scan) (column : Int) : Scan :=
  if s.flowLevel ≠ 0 then s
  else
    let (ends, indent, outer) := unwindTo column s.indent s.outer
    { s with queue := s.queue ++ ends, indent := indent, outer := outer }

/-- Begins a block at a column, unless it has begun. -/
def indentTo (s : Scan) (column : Nat) : Bool × Scan :=
  if s.indent < column then
    (true, { s with outer := s.indent :: s.outer, indent := column })
  else (false, s)

/-- Gaps, comments and ends of line before the next token. Behind an end of line a key may stand. -/
def skipGaps (s : Scan) : Scan :=
  let c := if s.cursor.index = 0 && s.cursor.peek.toNat = 0xfeff then s.cursor.next else s.cursor
  repeatShrinking (fun s => s.cursor.rest.length) (fun s =>
    let c := s.cursor.skipSpaces.skipComment
    let (text, c) := c.lineBreak
    if text.isEmpty then (false, { s with cursor := c })
    else (true, { s with cursor := c, keyAllowed := s.keyAllowed || s.flowLevel = 0 }))
    { s with cursor := c }

/-! ### The next token -/

def mark (s : Scan) (length : Nat) (token : Token) : Scan :=
  { s with cursor := s.cursor.forward length, queue := s.queue ++ [token] }

def takeEnd (s : Scan) : Except YamlFault Scan := do
  let s ← (s.unwind (-1)).dropKey
  return { s with keyAllowed := false, keys := [], queue := s.queue ++ [.textEnd], finished := true }

def takeDirective (s : Scan) : Except YamlFault Scan := do
  let s ← (s.unwind (-1)).dropKey
  let (token, c) ← directiveAt s.cursor
  return { s.emit [token] with keyAllowed := false, cursor := c }

def takeSeparator (s : Scan) (token : Token) : Except YamlFault Scan := do
  let s ← (s.unwind (-1)).dropKey
  return { s.mark 3 token with keyAllowed := false }

/-- An opening bracket, which may begin a key. -/
def openFlow (s : Scan) (token : Token) : Except YamlFault Scan := do
  let s ← s.saveKey
  return { s.mark 1 token with flowLevel := s.flowLevel + 1, keyAllowed := true }

/-- A closing bracket. Without an opening one there is no level to return to. -/
def closeFlow (s : Scan) (token : Token) : Except YamlFault Scan := do
  let s ← s.dropKey
  return { s.mark 1 token with flowLevel := s.flowLevel - 1, keyAllowed := false }

def takeFlowEntry (s : Scan) : Except YamlFault Scan := do
  let s ← s.dropKey
  return { s.mark 1 .flowEntry with keyAllowed := true }

/-- Begins a block of entries or keys at the cursor, where one may begin. -/
def beginBlock (s : Scan) (start : Token) : Except YamlFault Scan :=
  if s.flowLevel ≠ 0 then .ok s
  else if !s.keyAllowed then .error .token
  else
    let (begun, s) := s.indentTo s.cursor.column
    .ok (if begun then s.emit [start] else s)

def takeBlockEntry (s : Scan) : Except YamlFault Scan := do
  let s ← s.beginBlock .blockSequenceStart
  let s ← { s with keyAllowed := true }.dropKey
  return s.mark 1 .blockEntry

def takeKey (s : Scan) : Except YamlFault Scan := do
  let s ← s.beginBlock .blockMappingStart
  let s ← { s with keyAllowed := s.flowLevel = 0 }.dropKey
  return s.mark 1 .key

/-- Puts tokens into the queue where the token with a number is. -/
def insertAt (s : Scan) (number : Nat) (tokens : List Token) : Scan :=
  let n := number - s.given
  { s with queue := s.queue.take n ++ tokens ++ s.queue.drop n }

/-- The colon of a value. What may be a simple key at this level is one. -/
def takeValue (s : Scan) : Except YamlFault Scan := do
  match s.keys.find? (·.1 == s.flowLevel) with
  | some (_, key) =>
    let s := { s with keys := s.keys.filter (·.1 != s.flowLevel), keyAllowed := false }
    let (begun, s) := if s.flowLevel = 0 then s.indentTo key.column else (false, s)
    let s := s.insertAt key.number (if begun then [.blockMappingStart, .key] else [.key])
    return s.mark 1 .value
  | none =>
    let s ← s.beginBlock .blockMappingStart
    let s ← { s with keyAllowed := s.flowLevel = 0 }.dropKey
    return s.mark 1 .value

def takeNode (s : Scan) (read : Cursor → Except YamlFault (Token × Cursor)) :
    Except YamlFault Scan := do
  let s ← s.saveKey
  let (token, c) ← read s.cursor
  return { s.emit [token] with keyAllowed := false, cursor := c }

def takeBlock (s : Scan) (folded : Bool) : Except YamlFault Scan := do
  let s ← { s with keyAllowed := true }.dropKey
  let r ← blockScalar folded s.indent s.cursor
  return { s.emit [.scalar (String.ofList r.text) false] with cursor := r.cursor }

/-- A plain scalar, behind which a key may stand if it ends a line. -/
def takePlain (s : Scan) : Except YamlFault Scan := do
  let s ← s.saveKey
  let p ← plainScalar (s.flowLevel ≠ 0) s.indent s.cursor
  return { s.emit [.scalar (String.ofList p.reading.text) true] with
    keyAllowed := p.newLine, cursor := p.reading.cursor }

def indicators : List Char := "-?:,[]\x7b\x7d#&*!|>'\"%@\x60".toList

def beginsPlain (s : Scan) : Bool :=
  let ch := s.cursor.peek
  !(isGapOrEnd ch || indicators.contains ch) ||
    (!isGapOrEnd (s.cursor.ahead 1) &&
      (ch == '-' || (s.flowLevel = 0 && (ch == '?' || ch == ':'))))

/-- Takes the next token, with those that its column implies. -/
def takeNext (s : Scan) : Except YamlFault Scan := do
  let s ← s.skipGaps.dropStale
  let s := s.unwind s.cursor.column
  let c := s.cursor
  let ch := c.peek
  let inFlow := s.flowLevel ≠ 0
  let gapAfter := isGapOrEnd (c.ahead 1)
  if c.atEnd then s.takeEnd
  else if ch == '%' && c.column = 0 then s.takeDirective
  else if ch == '-' && c.column = 0 && c.atSeparator then s.takeSeparator .documentStart
  else if ch == '.' && c.column = 0 && c.atSeparator then s.takeSeparator .documentEnd
  else if ch == '[' then s.openFlow .flowSequenceStart
  else if ch == '\x7b' then s.openFlow .flowMappingStart
  else if ch == ']' then s.closeFlow .flowSequenceEnd
  else if ch == '\x7d' then s.closeFlow .flowMappingEnd
  else if ch == ',' then s.takeFlowEntry
  else if ch == '-' && gapAfter then s.takeBlockEntry
  else if ch == '?' && (inFlow || gapAfter) then s.takeKey
  else if ch == ':' && (inFlow || gapAfter) then s.takeValue
  else if ch == '*' then
    s.takeNode fun c => do let (name, c) ← anchorAt c; return (.reference name, c)
  else if ch == '&' then
    s.takeNode fun c => do let (name, c) ← anchorAt c; return (.anchor name, c)
  else if ch == '!' then s.takeNode tagAt
  else if ch == '|' && !inFlow then s.takeBlock false
  else if ch == '>' && !inFlow then s.takeBlock true
  else if ch == '\'' then
    s.takeNode fun c => do
      let r ← quotedScalar false c
      return (.scalar (.ofSigns r.text) false, r.cursor)
  else if ch == '"' then
    s.takeNode fun c => do
      let r ← quotedScalar true c
      return (.scalar (.ofSigns r.text) false, r.cursor)
  else if s.beginsPlain then s.takePlain
  else throw .token

/-- Gives out the tokens before the first that may still turn out to be a key. -/
def give (s : Scan) : List Token × Scan :=
  let ready := match (s.keys.map (·.2.number)).min? with
    | some number => number - s.given
    | none => s.queue.length
  (s.queue.take ready,
    { s with queue := s.queue.drop ready, given := s.given + (s.queue.take ready).length })

end Scan

/-- Items that were read in order, and the fault behind them if one ended the reading. -/
structure Stream (α : Type) where
  items : List α
  fault : Option YamlFault

def Stream.after {α : Type} (items : List α) (s : Stream α) : Stream α :=
  { s with items := items ++ s.items }

def Scan.tokens (s : Scan) : Stream Token :=
  if s.finished then ⟨s.queue, none⟩
  else
    match if s.queue.isEmpty then .ok s else s.dropStale with
    | .error fault => ⟨[], some fault⟩
    | .ok checked =>
      let (ready, waiting) := checked.give
      match waiting.takeNext with
      | .error fault => ⟨ready, some fault⟩
      | .ok next =>
        if next.finished then ⟨ready ++ next.queue, none⟩
        else if next.cursor.rest.length < s.cursor.rest.length then
          Stream.after ready next.tokens
        else ⟨ready, some .token⟩
  termination_by s.cursor.rest.length

def tokens (text : List Char) : Stream Token := (Scan.start text).tokens

end ChangelogViews.Yaml
