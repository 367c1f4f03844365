/-!
# A place in a YAML text

A cursor stands between two characters of a text and knows the line and the column that it is at. The
text holds no null character, so reading at its end gives one. Lines end at a line feed, a carriage
return, the two together, or one of three other separators.
-/

namespace ChangelogViews.Yaml

/-- Stands for the end of the text. -/
def endMark : Char := Char.ofNat 0

/-- A character that ends a line. -/
def isBreak (c : Char) : Bool :=
  c == '\n' || c == '\r' || c.toNat == 0x85 || c.toNat == 0x2028 || c.toNat == 0x2029

def isBreakOrEnd (c : Char) : Bool := isBreak c || c == endMark

def isSpaceOrEnd (c : Char) : Bool := c == ' ' || isBreakOrEnd c

def isGapOrEnd (c : Char) : Bool := c == '\t' || isSpaceOrEnd c

/-- A character of a word: a letter, digit, dash or underscore. -/
def isWordChar (c : Char) : Bool := c.isAlphanum || c == '-' || c == '_'

def isHexDigit (c : Char) : Bool :=
  c.isDigit || ('a' ≤ c && c ≤ 'f') || ('A' ≤ c && c ≤ 'F')

/-- A place in a text: what follows, and how much lies before. -/
structure Cursor where
  rest : List Char
  index : Nat
  line : Nat
  column : Nat
  deriving DecidableEq, Repr

namespace Cursor

def start (text : List Char) : Cursor := ⟨text, 0, 0, 0⟩

def ahead (c : Cursor) (n : Nat) : Char := c.rest.getD n endMark

def peek (c : Cursor) : Char := c.ahead 0

def atEnd (c : Cursor) : Bool := c.peek == endMark

/-- The cursor one character further. A byte order mark takes no column. -/
def next (c : Cursor) : Cursor :=
  match c.rest with
  | [] => c
  | ch :: rest =>
    if isBreak ch && !(ch == '\r' && rest.head? == some '\n') then
      ⟨rest, c.index + 1, c.line + 1, 0⟩
    else ⟨rest, c.index + 1, c.line, if ch.toNat = 0xfeff then c.column else c.column + 1⟩

def forward : Nat → Cursor → Cursor
  | 0, c => c
  | n + 1, c => forward n c.next

/-- The characters at the front that pass a test, and the cursor behind them. -/
def takeWhile (p : Char → Bool) (c : Cursor) : List Char × Cursor :=
  let run := c.rest.takeWhile p
  (run, c.forward run.length)

def skipWhile (p : Char → Bool) (c : Cursor) : Cursor := (c.takeWhile p).2

def skipSpaces (c : Cursor) : Cursor := c.skipWhile (· == ' ')

/-- The cursor at the end of the line, if a comment is all that is left of it. -/
def skipComment (c : Cursor) : Cursor :=
  if c.peek == '#' then c.skipWhile (!isBreakOrEnd ·) else c

/-- A line break and what it stands for, nothing if the line goes on. -/
def lineBreak (c : Cursor) : List Char × Cursor :=
  let ch := c.peek
  if ch == '\r' && c.ahead 1 == '\n' then (['\n'], c.forward 2)
  else if ch == '\n' || ch == '\r' || ch.toNat == 0x85 then (['\n'], c.next)
  else if isBreak ch then ([ch], c.next)
  else ([], c)

/-- Three dashes or dots at the front that separate documents, with a gap behind them. -/
def atSeparator (c : Cursor) : Bool :=
  (['-', '-', '-'].isPrefixOf c.rest || ['.', '.', '.'].isPrefixOf c.rest) && isGapOrEnd (c.ahead 3)

end Cursor

/-- Takes steps for as long as they go on and what is left gets smaller. A step says whether to go
on after it. -/
def whileShrinking {σ ε : Type} (size : σ → Nat) (step : σ → Except ε (Bool × σ)) (s : σ) :
    Except ε σ :=
  match step s with
  | .error e => .error e
  | .ok (false, next) => .ok next
  | .ok (true, next) => if size next < size s then whileShrinking size step next else .ok next
  termination_by size s

/-- Takes steps that cannot fail for as long as they go on and what is left gets smaller. -/
def repeatShrinking {σ : Type} (size : σ → Nat) (step : σ → Bool × σ) (s : σ) : σ :=
  match step s with
  | (false, next) => next
  | (true, next) => if size next < size s then repeatShrinking size step next else next
  termination_by size s

end ChangelogViews.Yaml
