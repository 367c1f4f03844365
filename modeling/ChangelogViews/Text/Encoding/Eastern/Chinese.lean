import ChangelogViews.Text.Encoding.Eastern.Sets.Big5
import ChangelogViews.Text.Encoding.Eastern.Sets.Gb2312
import ChangelogViews.Text.Encoding.Eastern.Sets.HongKong
import ChangelogViews.Text.Encoding.Eastern.Step

/-!
# Chinese encodings

On the mainland each encoding holds the one before: GB 2312, GBK with all Chinese characters of
Unicode's first version, and GB 18030 with every character there is. HZ writes GB 2312 without bytes
from 0x80 on. Taiwan and Hong Kong have Big5 and what others added to it.
-/

namespace ChangelogViews.Text.Eastern

def gb2312Char? : Nat → Nat → Option Char := gb2312.raised?

/-- The marks of GBK, some of them in place of others in GB 2312. -/
def gbkMarks : CharSet :=
  [⟨0xa1, 0xa4, ["·"]⟩,
   ⟨0xa1, 0xaa, ["—"]⟩,
   ⟨0xa2, 0xa1, ["ⅰⅱⅲⅳⅴⅵⅶⅷⅸⅹ"]⟩,
   ⟨0xa6, 0xe0, ["︵︶︹︺︿﹀︽︾﹁﹂﹃﹄__︻︼︷︸︱_︳︴"]⟩,
   ⟨0xa8, 0x40, [
    "ˊˋ˙–―‥‵℅℉↖↗↘↙∕∟∣≒≦≧⊿═║╒╓╔╕╖╗╘╙╚╛╜╝╞╟╠╡╢╣╤╥╦╧╨╩╪╫╬╭╮╯╰╱╲╳▁▂▃▄▅▆▇_█▉▊▋▌▍▎▏▓▔▕▼▽◢◣◤◥☉⊕〒〝〞"]⟩,
   ⟨0xa8, 0xbb, ["ɑ_ńň_ɡ"]⟩,
   ⟨0xa9, 0x40, [
    "〡〢〣〤〥〦〧〨〩㊣㎎㎏㎜㎝㎞㎡㏄㏎㏑㏒㏕︰￢￤_℡㈱_‐___ー゛゜ヽヾ〆ゝゞ﹉﹊﹋﹌﹍﹎﹏﹐﹑﹒﹔﹕﹖﹗﹙﹚﹛﹜﹝﹞﹟﹠﹡_﹢﹣﹤﹥﹦﹨﹩﹪﹫"]⟩,
   ⟨0xa9, 0x96, ["〇"]⟩,
   ⟨0xfd, 0x9c, ["\uf92c\uf979\uf995\uf9e7\uf9f1"]⟩,
   ⟨0xfe, 0x40, [
    "\ufa0c\ufa0d\ufa0e\ufa0f\ufa11\ufa13\ufa14\ufa18\ufa1f\ufa20\ufa21\ufa23\ufa24\ufa27" ++
      "\ufa28\ufa29"]⟩]

def firstIdeograph : Nat := 0x4e00

/-- The number of Chinese characters in Unicode's first version. -/
def ideographCount : Nat := 20902

/-- The Chinese characters that are not in GB 2312. -/
def rareIdeographs : Array Nat :=
  (unmarked (marked gb2312.chars) firstIdeograph ideographCount).toArray

/-- Where GBK has these characters, by their numbers in order. -/
def rareAreas : List Area := [⟨0x81, 0xa0, 0x40, 0xfe, 0⟩, ⟨0xaa, 0xfe, 0x40, 0xa0, 6080⟩]

def gbkChar? (first second : Nat) : Option Char :=
  (gbkMarks.char? first second).or <| (gb2312Char? first second).or <|
    ((rareAreas.findSome? (·.number? first second)).bind (rareIdeographs[·]?)).map Char.ofNat

/-- The characters that GB 18030 adds in two bytes. -/
def gb18030Marks : CharSet :=
  [⟨0xa2, 0xe3, ["€"]⟩,
   ⟨0xa8, 0xbf, ["ǹ"]⟩,
   ⟨0xa9, 0x89, ["〾⿰⿱⿲⿳⿴⿵⿶⿷⿸⿹⿺⿻"]⟩,
   ⟨0xfe, 0x50, [
    "⺁___⺄㑳㑇⺈⺋_㖞㘚㘎⺌⺗㥮㤘_㧏㧟㩳㧐__㭎㱮㳠⺧__⺪䁖䅟⺮䌷⺳⺶⺷_䎱䎬⺻䏝䓖䙡䙌__䜣䜩䝼䞍⻊䥇䥺䥽䦂䦃䦅䦆䦟䦛䦷䦶__䲣䲟䲠䲡䱷䲢䴓䴔䴕䴖䴗䴘䴙䶮"]⟩]

/-- The places for private use: three areas for the users, and then every gap of GBK in order. -/
def privateAreas : List Area :=
  [⟨0xaa, 0xaf, 0xa1, 0xfe, 0xe000⟩, ⟨0xf8, 0xfe, 0xa1, 0xfe, 0xe234⟩,
   ⟨0xa1, 0xa7, 0x40, 0xa0, 0xe4c6⟩, ⟨0xa2, 0xa2, 0xab, 0xb0, 0xe766⟩,
   ⟨0xa2, 0xa2, 0xe3, 0xe4, 0xe76c⟩, ⟨0xa2, 0xa2, 0xef, 0xf0, 0xe76e⟩,
   ⟨0xa2, 0xa2, 0xfd, 0xfe, 0xe770⟩, ⟨0xa4, 0xa4, 0xf4, 0xfe, 0xe772⟩,
   ⟨0xa5, 0xa5, 0xf7, 0xfe, 0xe77d⟩, ⟨0xa6, 0xa6, 0xb9, 0xc0, 0xe785⟩,
   ⟨0xa6, 0xa6, 0xd9, 0xdf, 0xe78d⟩, ⟨0xa6, 0xa6, 0xec, 0xed, 0xe794⟩,
   ⟨0xa6, 0xa6, 0xf3, 0xf3, 0xe796⟩, ⟨0xa6, 0xa6, 0xf6, 0xfe, 0xe797⟩,
   ⟨0xa7, 0xa7, 0xc2, 0xd0, 0xe7a0⟩, ⟨0xa7, 0xa7, 0xf2, 0xfe, 0xe7af⟩,
   ⟨0xa8, 0xa8, 0x96, 0xa0, 0xe7bc⟩, ⟨0xa8, 0xa8, 0xbc, 0xbc, 0xe7c7⟩,
   ⟨0xa8, 0xa8, 0xbf, 0xbf, 0xe7c8⟩, ⟨0xa8, 0xa8, 0xc1, 0xc4, 0xe7c9⟩,
   ⟨0xa8, 0xa8, 0xea, 0xfe, 0xe7cd⟩, ⟨0xa9, 0xa9, 0x58, 0x58, 0xe7e2⟩,
   ⟨0xa9, 0xa9, 0x5b, 0x5b, 0xe7e3⟩, ⟨0xa9, 0xa9, 0x5d, 0x5f, 0xe7e4⟩,
   ⟨0xa9, 0xa9, 0x89, 0x95, 0xe7e7⟩, ⟨0xa9, 0xa9, 0x97, 0xa3, 0xe7f4⟩,
   ⟨0xa9, 0xa9, 0xf0, 0xfe, 0xe801⟩, ⟨0xd7, 0xd7, 0xfa, 0xfe, 0xe810⟩,
   ⟨0xfe, 0xfe, 0x50, 0xa0, 0xe815⟩]

def gb18030Char? (first second : Nat) : Option Char :=
  (gbkChar? first second).or <| (gb18030Marks.char? first second).or <|
    privateAreas.findSome? (·.char? first second)

/-- The characters for private use that two bytes write. -/
def privateChars : List Char :=
  privateAreas.flatMap fun a =>
    (a.places.filter fun (row, column) => (gb18030Marks.char? row column).isNone).filterMap
      fun (row, column) => a.char? row column

/-- The characters that two bytes write, other than Chinese ones. The middle dot of GB 2312 is none of
them. -/
def doubledChars : List Char :=
  gb2312.chars.filter (· ≠ '・') ++ gbkMarks.chars ++ gb18030Marks.chars ++ privateChars

/-- The code points of the first plane that four bytes write, in order. -/
def quadrupledCodes : Array Nat :=
  ((unmarked (marked doubledChars) 0x80 (0x10000 - 0x80)).filter fun code =>
    !(firstIdeograph ≤ code && code < firstIdeograph + ideographCount) &&
      (Half.ofCode? code).isNone).toArray

/-- Four bytes of GB 18030. They count the characters of the first plane, and those of the others by
themselves. -/
def gb18030Quadruple? (first second third fourth : Nat) : Option Char :=
  let isLetter (byte : Nat) := 0x81 ≤ byte && byte ≤ 0xfe
  let isDigit (byte : Nat) := 0x30 ≤ byte && byte ≤ 0x39
  if isLetter first && isDigit second && isLetter third && isDigit fourth then
    let below := ((second - 0x30) * 126 + (third - 0x81)) * 10 + (fourth - 0x30)
    if first < 0x85 then (quadrupledCodes[(first - 0x81) * 12600 + below]?).map Char.ofNat
    else if first < 0x90 then none
    else
      let code := 0x10000 + (first - 0x90) * 12600 + below
      if code ≤ 0x10ffff then some (Char.ofNat code) else none
  else none

/-- GB 18030. A digit behind the first byte begins four bytes. -/
def gb18030Step (bytes : List Nat) : Step :=
  match bytes with
  | first :: second :: rest =>
    if 0x80 ≤ first && 0x30 ≤ second && second ≤ 0x39 then
      match rest with
      | third :: fourth :: _ => Step.char (gb18030Quadruple? first second third fourth) 4
      | _ => .cut
    else Step.double gb18030Char? bytes
  | bytes => Step.double gb18030Char? bytes

/-- HZ, inside Chinese characters or outside. A tilde leads in and out. -/
def hzStep (inside : Bool) : List Nat → Bool × Step
  | [] => (inside, .cut)
  | 0x7e :: rest =>
    match inside, rest with
    | _, [] => (inside, .cut)
    | false, 0x7e :: _ => (false, .read ['~'] 2)
    | false, 0x7b :: _ => (true, .read [] 2)
    | false, 0x0a :: _ => (false, .read [] 2)
    | true, 0x7d :: _ => (false, .read [] 2)
    | _, _ => (inside, .illegal 1)
  | first :: rest =>
    if 0x80 ≤ first then (inside, .illegal 1)
    else if !inside then (false, .plain first)
    else
      match rest with
      | [] => (true, .cut)
      | second :: _ => (true, Step.char (gb2312.char? first second) 2)

def big5Char? : Nat → Nat → Option Char := big5.char?

/-- What Windows adds to Big5, and other characters for some marks. -/
def windowsBig5 : CharSet :=
  [⟨0xa1, 0x45, ["‧"]⟩,
   ⟨0xa1, 0x4e, ["﹑"]⟩,
   ⟨0xa1, 0xc2, ["¯"]⟩,
   ⟨0xa1, 0xe3, ["～"]⟩,
   ⟨0xa1, 0xf2, ["⊕⊙"]⟩,
   ⟨0xa2, 0x41, ["∕﹨_￥_￠￡"]⟩,
   ⟨0xa3, 0xe1, ["€"]⟩,
   ⟨0xf9, 0xd6, ["碁銹裏墻恒粧嫺╔╦╗╠╬╣╚╩╝╒╤╕╞╪╡╘╧╛╓╥╖╟╫╢╙╨╜║═╭╮╰╯▓"]⟩]

def windowsBig5Char? (first second : Nat) : Option Char :=
  (windowsBig5.char? first second).or (big5Char? first second)

/-- The bytes that write a letter with two marks on it. -/
def hongKongPairs : List ((Nat × Nat) × List Char) :=
  [((0x88, 0x62), ['Ê', '\u0304']), ((0x88, 0x64), ['Ê', '\u030c']),
   ((0x88, 0xa3), ['ê', '\u0304']), ((0x88, 0xa5), ['ê', '\u030c'])]

/-- Big5 may have lost its characters in the rows from 0xc6a1 to 0xc8fe to those of Hong Kong. -/
def isBig5Place (first second : Nat) : Bool :=
  first < 0xc6 || 0xc8 < first || (first < 0xc7 && second < 0xa1)

def hongKongChars? (first second : Nat) : Option (List Char) :=
  let known := if isBig5Place first second then big5Char? first second else none
  ((known.or (hongKong.char? first second)).map ([·])).or (hongKongPairs.lookup (first, second))

def hongKongStep : List Nat → Step
  | [] => .cut
  | first :: rest =>
    if first < 0x80 then .plain first
    else
      match rest with
      | [] => .cut
      | second :: _ =>
        match hongKongChars? first second with
        | some cs => .read cs 2
        | none => .illegal 1

end ChangelogViews.Text.Eastern
