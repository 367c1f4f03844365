import ChangelogViews.Text.Loose

/-!
# Sets of characters by two numbers

The writing systems of East Asia have too many characters for one byte. Their sets give each character
two numbers, of which the first selects a row. A set is kept as blocks of rows; where code points follow
each other they are counted instead.
-/

namespace ChangelogViews.Text.Eastern

/-- What a row has in place of a character where it has none. -/
def hole : Char := '_'

/-- Rows that follow each other and begin at the same second number. -/
structure Block where
  row : Nat
  column : Nat
  rows : List String

def Block.char? (b : Block) (row column : Nat) : Option Char :=
  if b.row ≤ row && b.column ≤ column then
    (b.rows[row - b.row]?).bind fun cs => (cs.toList[column - b.column]?).filter (· ≠ hole)
  else none

abbrev CharSet := List Block

namespace CharSet

def char? (set : CharSet) (row column : Nat) : Option Char := set.findSome? (·.char? row column)

/-- The character of two bytes that are the numbers raised by 0x80. -/
def raised? (set : CharSet) (first second : Nat) : Option Char :=
  if 0x80 ≤ first && 0x80 ≤ second then set.char? (first - 0x80) (second - 0x80) else none

def chars (set : CharSet) : List Char :=
  (set.flatMap fun b => b.rows.flatMap String.toList).filter (· ≠ hole)

end CharSet

/-- How many second bytes are in front of one from `first` on, among which 0x7f is never one. -/
def columnsBefore (first column : Nat) : Nat :=
  if first ≤ 0x7f && 0x7f < column then column - first - 1 else column - first

/-- Rows and columns that are counted one after the other from a number on. -/
structure Area where
  row : Nat
  lastRow : Nat
  column : Nat
  lastColumn : Nat
  number : Nat

namespace Area

/-- The number of a place in the area. -/
def number? (a : Area) (row column : Nat) : Option Nat :=
  if a.row ≤ row && row ≤ a.lastRow && a.column ≤ column && column ≤ a.lastColumn && column ≠ 0x7f then
    some (a.number + (row - a.row) * columnsBefore a.column (a.lastColumn + 1) +
      columnsBefore a.column column)
  else none

def char? (a : Area) (row column : Nat) : Option Char := (a.number? row column).map Char.ofNat

def places (a : Area) : List (Nat × Nat) :=
  (List.range' a.row (a.lastRow + 1 - a.row)).flatMap fun row =>
    ((List.range' a.column (a.lastColumn + 1 - a.column)).filter (· ≠ 0x7f)).map fun column =>
      (row, column)

end Area

/-- Which code points of the first plane are those of some characters. -/
def marked (cs : List Char) : Array Bool :=
  cs.foldl (fun marks c => marks.setIfInBounds c.toNat true) (Array.replicate 0x10000 false)

/-- The code points of a range that no mark is set for, in order. -/
def unmarked (marks : Array Bool) (first count : Nat) : List Nat :=
  (List.range' first count).filter fun code => !(marks[code]?.getD false)

end ChangelogViews.Text.Eastern
