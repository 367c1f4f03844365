/-!
# Classes of characters

A character class that is the data of a standard is kept as a list of closed ranges of code points. The
blank characters separate words: the white space of Unicode together with the four information
separators. `trim` removes them from both ends of a text.
-/

namespace ChangelogViews.Text

/-- A character is in the class when some range holds its code point. -/
def inRanges (ranges : List (Nat × Nat)) (c : Char) : Bool :=
  ranges.any fun (low, high) => Nat.ble low c.toNat && Nat.ble c.toNat high

def blankRanges : List (Nat × Nat) :=
  [(0x09, 0x0d), (0x1c, 0x20), (0x85, 0x85), (0xa0, 0xa0), (0x1680, 0x1680), (0x2000, 0x200a),
   (0x2028, 0x2029), (0x202f, 0x202f), (0x205f, 0x205f), (0x3000, 0x3000)]

/-- `isspace` of a character. -/
def isBlank (c : Char) : Bool := inRanges blankRanges c

def trimEnd (cs : List Char) : List Char :=
  (cs.reverse.dropWhile isBlank).reverse

def trim (s : String) : String :=
  String.ofList (trimEnd (s.toList.dropWhile isBlank))

def allBlank (s : String) : Bool := s.toList.all isBlank

end ChangelogViews.Text
