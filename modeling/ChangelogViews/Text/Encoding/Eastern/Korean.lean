import ChangelogViews.Text.Encoding.Eastern.Sets.KsX1001
import ChangelogViews.Text.Encoding.Eastern.Step

/-!
# Korean encodings

A syllable of Hangul is made of a first consonant, a vowel and at most one last consonant. KS X 1001 has
only the common syllables: one encoding spells the others by their letters, one has them in order
wherever there is room, and Johab writes every syllable by its letters.
-/

namespace ChangelogViews.Text.Eastern

/-- The letters that a syllable may begin with. -/
def initials : List Char := "ㄱㄲㄴㄷㄸㄹㅁㅂㅃㅅㅆㅇㅈㅉㅊㅋㅌㅍㅎ".toList

def vowels : List Char := "ㅏㅐㅑㅒㅓㅔㅕㅖㅗㅘㅙㅚㅛㅜㅝㅞㅟㅠㅡㅢㅣ".toList

/-- The letters that a syllable may end with. -/
def finals : List Char := "ㄱㄲㄳㄴㄵㄶㄷㄹㄺㄻㄼㄽㄾㄿㅀㅁㅂㅄㅅㅆㅇㅈㅊㅋㅌㅍㅎ".toList

def firstSyllable : Nat := 0xac00

def syllableCount : Nat := 11172

/-- The syllable of letters by their places, where zero is no last consonant. -/
def syllable (initial vowel final : Nat) : Char :=
  Char.ofNat (firstSyllable + (initial * 21 + vowel) * 28 + final)

def letterByte : Nat := 0xa4

/-- The second byte of what stands for no letter. -/
def fillerByte : Nat := 0xd4

def letter? (byte : Nat) : Option Char := ksX1001.raised? letterByte byte

/-- The place of a letter by its second byte. -/
def letterPlace? (letters : List Char) (byte : Nat) : Option Nat :=
  (letter? byte).bind (letters.idxOf? ·)

def spelled? (initial vowel final : Nat) : Option Char := do
  let i ← letterPlace? initials initial
  let v ← letterPlace? vowels vowel
  let f ← if final = fillerByte then some 0 else (letterPlace? finals final).map (· + 1)
  return syllable i v f

/-- Two bytes for a character, and eight for a syllable that is spelled. -/
def spellingStep (bytes : List Nat) : Step :=
  match bytes with
  | first :: second :: rest =>
    if first = letterByte && second = fillerByte then
      match rest with
      | a :: initial :: b :: vowel :: c :: final :: _ =>
        if a = letterByte && b = letterByte && c = letterByte then
          Step.char (spelled? initial vowel final) 8
        else .illegal 1
      | _ => .cut
    else Step.double ksX1001.raised? bytes
  | bytes => Step.double ksX1001.raised? bytes

/-- The syllables that are not in KS X 1001. -/
def rareSyllables : Array Nat :=
  (unmarked (marked ksX1001.chars) firstSyllable syllableCount).toArray

/-- The place of a second byte among those of rare syllables. -/
def rareColumn? (byte : Nat) : Option Nat :=
  if 0x41 ≤ byte && byte ≤ 0x5a then some (byte - 0x41)
  else if 0x61 ≤ byte && byte ≤ 0x7a then some (byte - 0x61 + 26)
  else if 0x81 ≤ byte && byte ≤ 0xfe then some (byte - 0x81 + 52)
  else none

/-- The number of a rare syllable by two bytes. Rows that hold other characters have fewer columns for
them. -/
def rareNumber? (first second : Nat) : Option Nat := do
  let column ← rareColumn? second
  if 0x81 ≤ first && first ≤ 0xa0 then return (first - 0x81) * 178 + column
  else if 0xa1 ≤ first && first ≤ 0xc6 && column < 84 then return 5696 + (first - 0xa1) * 84 + column
  else none

def unifiedChar? (first second : Nat) : Option Char :=
  (ksX1001.raised? first second).or <|
    ((rareNumber? first second).bind (rareSyllables[·]?)).map Char.ofNat

/-- A letter of a syllable, or none. -/
abbrev Part := Option Nat

def initialPart? (bits : Nat) : Option Part :=
  if bits = 1 then some none
  else if 2 ≤ bits && bits ≤ 20 then some (some (bits - 2))
  else none

/-- The vowel of five bits, which leave gaps of two. -/
def vowelPart? (bits : Nat) : Option Part :=
  if bits = 2 then some none
  else if 3 ≤ bits && bits ≤ 7 then some (some (bits - 3))
  else if 10 ≤ bits && bits ≤ 15 then some (some (bits - 5))
  else if 18 ≤ bits && bits ≤ 23 then some (some (bits - 7))
  else if 26 ≤ bits && bits ≤ 29 then some (some (bits - 9))
  else none

def finalPart? (bits : Nat) : Option Part :=
  if bits = 1 then some none
  else if 2 ≤ bits && bits ≤ 17 then some (some (bits - 1))
  else if 19 ≤ bits && bits ≤ 29 then some (some (bits - 2))
  else none

/-- The character of the parts of a syllable: the syllable, or a letter that stands alone. -/
def joined? : Part → Part → Part → Option Char
  | some i, some v, f => some (syllable i v (f.getD 0))
  | some i, none, none => initials[i]?
  | none, some v, none => vowels[v]?
  | none, none, some f => finals[f - 1]?
  | none, none, none => some '\u3000'
  | _, _, _ => none

def johabSyllable? (first second : Nat) : Option Char := do
  let i ← initialPart? (first / 4 % 32)
  let v ← vowelPart? (first % 4 * 8 + second / 32)
  let f ← finalPart? (second % 32)
  joined? i v f

/-- Two bytes of Johab that write another character. Each first byte has two rows of
KS X 1001. -/
def johabOther? (first second : Nat) : Option Char :=
  if first < 0xd9 || first = 0xdf || 0xf9 < first || second < 0x31 || (0x80 ≤ second && second < 0x91) ||
      second % 0x80 = 0x7f || (first = 0xda && 0xa1 ≤ second && second ≤ 0xd3) then none
  else
    let row := if first < 0xe0 then 2 * (first - 0xd9) else 2 * first - 0x197
    let column := if second < 0x91 then second - 0x31 else second - 0x43
    ksX1001.char? (row + column / 0x5e + 0x21) (column % 0x5e + 0x21)

/-- Two bytes of Johab. -/
def johabChar? (first second : Nat) : Option Char :=
  if first < 0xd8 then johabSyllable? first second else johabOther? first second

end ChangelogViews.Text.Eastern
