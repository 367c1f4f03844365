import ChangelogViews.Text.Encoding.Eastern.Sets.JisX0208
import ChangelogViews.Text.Encoding.Eastern.Sets.JisX0212
import ChangelogViews.Text.Encoding.Eastern.Sets.JisX0213
import ChangelogViews.Text.Encoding.Eastern.Sets.WindowsJapanese
import ChangelogViews.Text.Encoding.Eastern.Step

/-!
# Japanese encodings

The Japanese sets are written in two ways. EUC raises both numbers by 0x80 and tells other sets by a
byte in front. Shift JIS moves them around the narrow Katakana, which take one byte.
-/

namespace ChangelogViews.Text.Eastern

/-- The Katakana of a byte, which is half as wide as others. -/
def katakana? (byte : Nat) : Option Char :=
  if 0xa1 ≤ byte && byte ≤ 0xdf then some (Char.ofNat (0xff61 + (byte - 0xa1))) else none

/-- The letters with a mark that JIS X 0213 has in one place. -/
def jisX0213Pairs : List ((Nat × Nat) × List Char) :=
  [((0x24, 0x77), ['か', '\u309a']), ((0x24, 0x78), ['き', '\u309a']),
   ((0x24, 0x79), ['く', '\u309a']), ((0x24, 0x7a), ['け', '\u309a']),
   ((0x24, 0x7b), ['こ', '\u309a']), ((0x25, 0x77), ['カ', '\u309a']),
   ((0x25, 0x78), ['キ', '\u309a']), ((0x25, 0x79), ['ク', '\u309a']),
   ((0x25, 0x7a), ['ケ', '\u309a']), ((0x25, 0x7b), ['コ', '\u309a']),
   ((0x25, 0x7c), ['セ', '\u309a']), ((0x25, 0x7d), ['ツ', '\u309a']),
   ((0x25, 0x7e), ['ト', '\u309a']), ((0x26, 0x78), ['ㇷ', '\u309a']),
   ((0x2b, 0x44), ['æ', '\u0300']), ((0x2b, 0x48), ['ɔ', '\u0300']),
   ((0x2b, 0x49), ['ɔ', '\u0301']), ((0x2b, 0x4a), ['ʌ', '\u0300']),
   ((0x2b, 0x4b), ['ʌ', '\u0301']), ((0x2b, 0x4c), ['ə', '\u0300']),
   ((0x2b, 0x4d), ['ə', '\u0301']), ((0x2b, 0x4e), ['ɚ', '\u0300']),
   ((0x2b, 0x4f), ['ɚ', '\u0301']), ((0x2b, 0x65), ['˩', '˥']), ((0x2b, 0x66), ['˥', '˩'])]

inductive Version where
  | of2000
  | of2004
  deriving DecidableEq, Repr

namespace Version

/-- The places of the first plane that the earlier version leaves free. -/
def later : List (Nat × Nat) :=
  [(0x2e, 0x21), (0x2f, 0x7e), (0x4f, 0x54), (0x4f, 0x7e), (0x74, 0x27), (0x7e, 0x7a), (0x7e, 0x7b),
   (0x7e, 0x7c), (0x7e, 0x7d), (0x7e, 0x7e)]

def isFree (version : Version) (row column : Nat) : Bool :=
  version = .of2000 && later.contains (row, column)

def first? (version : Version) (row column : Nat) : Option (List Char) :=
  if version.isFree row column then none
  else
    (((jisX0208.char? row column).or (jisX0213First.char? row column)).map ([·])).or
      (jisX0213Pairs.lookup (row, column))

/-- What a place of the second plane holds. One character is another one in the earlier version. -/
def second? (version : Version) (row column : Nat) : Option Char :=
  if version = .of2000 && row = 0x7d && column = 0x3b then some '鬝'
  else jisX0213Second.char? row column

end Version

/-- Two bytes for a place of the first plane. Of a free place both bytes write nothing. -/
def Version.firstStep (version : Version) (row column : Nat) : Step :=
  match version.first? row column with
  | some cs => .read cs 2
  | none => .illegal (if version.isFree row column then 2 else 1)

/-- EUC for the sets that two and three bytes write. -/
def eucStep (double : Nat → Nat → Step) (triple? : Nat → Nat → Option Char) : List Nat → Step
  | [] => .cut
  | first :: rest =>
    if first < 0x80 then .plain first
    else
      match rest with
      | [] => .cut
      | second :: rest =>
        if first = 0x8e then Step.char (katakana? second) 2
        else if first = 0x8f then
          match rest with
          | [] => .cut
          | third :: _ =>
            Step.char (if 0x80 ≤ second && 0x80 ≤ third then triple? (second - 0x80) (third - 0x80)
              else none) 3
        else if 0x80 ≤ second then double (first - 0x80) (second - 0x80)
        else .illegal 1

def eucJisStep : List Nat → Step :=
  eucStep (fun row column => Step.char (jisX0208.char? row column) 2) jisX0212.char?

/-- EUC with JIS X 0213, whose tilde is a wide one there. JIS X 0212 fills the gaps of the second
plane. -/
def euc0213Step (version : Version) : List Nat → Step :=
  eucStep
    (fun row column =>
      if row = 0x22 && column = 0x32 then .read ['～'] 2 else version.firstStep row column)
    fun row column => (version.second? row column).or (jisX0212.char? row column)

/-- The row from 0 on and the column from 0x21 on of two bytes. Each first byte has two rows. -/
def shiftedPlace? (first second : Nat) : Option (Nat × Nat) :=
  if second < 0x40 || second = 0x7f || 0xfc < second then none
  else
    let half := columnsBefore 0x40 second
    let place (lead : Nat) := some (2 * lead + half / 0x5e, half % 0x5e + 0x21)
    if 0x81 ≤ first && first ≤ 0x9f then place (first - 0x81)
    else if 0xe0 ≤ first && first ≤ 0xfc then place (first - 0xc1)
    else none

def shiftedChar? (first second : Nat) : Option Char := do
  let (row, column) ← shiftedPlace? first second
  jisX0208.char? (row + 0x21) column

/-- Shift JIS for what one byte writes beside Katakana, up to the last of the first bytes. -/
def shiftStep (last : Nat) (single? : Nat → Option Char) (double : Nat → Nat → Step) :
    List Nat → Step
  | [] => .cut
  | first :: rest =>
    match (single? first).or (katakana? first) with
    | some c => .read [c] 1
    | none =>
      if first < 0x81 || (0xa0 ≤ first && first < 0xe0) || last < first then .illegal 1
      else
        match rest with
        | [] => .cut
        | second :: _ => double first second

def shiftJisStep : List Nat → Step :=
  shiftStep 0xea (fun byte => if byte < 0x80 then some (Char.ofNat byte) else none)
    fun first second => Step.char (shiftedChar? first second) 2

/-- The places of Windows for private use. -/
def windowsPrivate : Area := ⟨0xf0, 0xf9, 0x40, 0xfc, 0xe000⟩

/-- What one byte writes under Windows beside Katakana. -/
def windowsSingle? (byte : Nat) : Option Char :=
  if byte ≤ 0x80 then some (Char.ofNat byte)
  else if byte = 0xa0 then some '\uf8f0'
  else if 0xfd ≤ byte then some (Char.ofNat (0xf8f1 + (byte - 0xfd)))
  else none

def windowsDouble? (first second : Nat) : Option Char :=
  (windowsJapanese.char? first second).or <| (shiftedChar? first second).or <|
    windowsPrivate.char? first second

def shiftWindowsStep : List Nat → Step :=
  shiftStep 0xfc windowsSingle? fun first second => Step.char (windowsDouble? first second) 2

/-- A byte of the Japanese form of ASCII, which has a yen and an overline. -/
def romanChar? (byte : Nat) : Option Char :=
  if byte = 0x5c then some '¥'
  else if byte = 0x7e then some '‾'
  else if byte < 0x80 then some (Char.ofNat byte)
  else none

/-- The row of the second plane for one from 0 on behind the first plane. The rows of this plane
are not all in order. -/
def secondRow (row : Nat) : Nat :=
  if 0x67 ≤ row then row + 7
  else if 0x63 ≤ row || row = 0x5f then row - 0x37
  else row - 0x3d

/-- Two bytes of Shift JIS with JIS X 0213, whose backslash is the one of ASCII there. -/
def shifted0213 (version : Version) (first second : Nat) : Step :=
  match shiftedPlace? first second with
  | none => .illegal 1
  | some (row, column) =>
    if 0x5e ≤ row then Step.char (version.second? (secondRow row) column) 2
    else if row = 0 && column = 0x40 then .read ['\\'] 2
    else version.firstStep (row + 0x21) column

def shift0213Step (version : Version) : List Nat → Step :=
  shiftStep 0xfc romanChar? (shifted0213 version)

end ChangelogViews.Text.Eastern
