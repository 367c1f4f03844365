import ChangelogViews.Text.Blank

/-!
# Decimal digits

The digits that write numbers in base ten, in every script that has some. A numeral may use those of
any script, and have blanks around it.
-/

namespace ChangelogViews.Text

/-- Code points of the digits for zero. The other nine follow each of them in order. -/
def zeroDigits : List Nat :=
  [0x30, 0x660, 0x6f0, 0x7c0, 0x966, 0x9e6, 0xa66, 0xae6, 0xb66, 0xbe6, 0xc66, 0xce6, 0xd66,
   0xde6, 0xe50, 0xed0, 0xf20, 0x1040, 0x1090, 0x17e0, 0x1810, 0x1946, 0x19d0, 0x1a80, 0x1a90,
   0x1b50, 0x1bb0, 0x1c40, 0x1c50, 0xa620, 0xa8d0, 0xa900, 0xa9d0, 0xa9f0, 0xaa50, 0xabf0,
   0xff10, 0x104a0, 0x10d30, 0x11066, 0x110f0, 0x11136, 0x111d0, 0x112f0, 0x11450, 0x114d0,
   0x11650, 0x116c0, 0x11730, 0x118e0, 0x11950, 0x11c50, 0x11d50, 0x11da0, 0x16a60, 0x16ac0,
   0x16b50, 0x1d7ce, 0x1d7d8, 0x1d7e2, 0x1d7ec, 0x1d7f6, 0x1e140, 0x1e2f0, 0x1e950, 0x1fbf0]

def digitValue? (c : Char) : Option Nat :=
  (zeroDigits.find? fun first => Nat.ble first c.toNat && Nat.blt c.toNat (first + 10)).map
    (c.toNat - ·)

def isDigit (c : Char) : Bool := (digitValue? c).isSome

/-- A blank of the common script that may stand around a numeral. -/
def isCommonBlank (c : Char) : Bool := c == ' ' || ('\t' ≤ c && c ≤ '\r')

def common (c : Char) : Char :=
  if c.toNat < 0x7f then c
  else
    match digitValue? c with
    | some d => Char.ofNat ('0'.toNat + d)
    | none => if isBlank c then ' ' else c

def numeral (cs : List Char) : List Char :=
  let behind := (cs.map common).dropWhile isCommonBlank
  (behind.reverse.dropWhile isCommonBlank).reverse

/-- The most digits in base ten that a whole number is read from. -/
def mostDigits : Nat := 4300

/-- The whole number of a numeral, which may have a sign in front and single underscores between its digits. -/
def wholeNumber? (cs : List Char) : Option Int :=
  let (negative, digits) := match numeral cs with
    | '-' :: digits => (true, digits)
    | '+' :: digits => (false, digits)
    | digits => (false, digits)
  let groups := digits.splitOn '_'
  if groups.all (fun group => !group.isEmpty && group.all Char.isDigit) &&
      Nat.ble (groups.flatten.length) mostDigits then
    let n := groups.flatten.foldl (fun n c => n * 10 + (c.toNat - '0'.toNat)) 0
    some (if negative then -(n : Int) else n)
  else none

end ChangelogViews.Text
