import ChangelogViews.Text.Printable

/-!
# Quoted text

How a text is shown inside a message: between quotation marks, on one line, with everything that
cannot be printed written by its code point. A wording that no format fixes is left out of messages.
-/

namespace ChangelogViews
namespace Text

/-- The last `width` digits of a number in base sixteen. -/
def hexDigits : (width : Nat) → (n : Nat) → List Char
  | 0, _ => []
  | width + 1, n => hexDigits width (n / 16) ++ [Nat.digitChar (n % 16)]

/-- A code point in the shortest of the three numbered forms that holds it. -/
def numbered (c : Char) : List Char :=
  let n := c.toNat
  if n < 0x100 then '\\' :: 'x' :: hexDigits 2 n
  else if n < 0x10000 then '\\' :: 'u' :: hexDigits 4 n
  else '\\' :: 'U' :: hexDigits 8 n

def shownChar (mark c : Char) : List Char :=
  if c = mark ∨ c = '\\' then ['\\', c]
  else if c = '\n' then ['\\', 'n']
  else if c = '\r' then ['\\', 'r']
  else if c = '\t' then ['\\', 't']
  else if isPrintable c then [c]
  else numbered c

/-- Single marks, or double ones around a text that holds single marks only. -/
def markFor (cs : List Char) : Char :=
  if cs.contains '\'' && !cs.contains '"' then '"' else '\''

/-- `repr` of a string. -/
def quoted (s : String) : String :=
  let cs := s.toList
  let mark := markFor cs
  String.ofList (mark :: cs.flatMap (shownChar mark) ++ [mark])

end Text

/-- What stands in a message for a wording that no format fixes. -/
def omittedDetails : String := "<details>"

end ChangelogViews
