import ChangelogViews.Text.Encoding.Eastern.Chinese
import ChangelogViews.Text.Encoding.Eastern.Korean
import ChangelogViews.Text.Encoding.Eastern.Switched
import ChangelogViews.Text.Encoding.Name

/-!
# Encodings of East Asia

The encodings of Chinese, Japanese and Korean, which write most characters by several bytes, and how
they are called.
-/

namespace ChangelogViews.Text

inductive EasternEncoding where
  | gb2312
  | gbk
  | gb18030
  | hz
  | big5
  | big5Windows
  | big5HongKong
  | eucJis
  | euc0213 (version : Eastern.Version)
  | shiftJis
  | shiftWindows
  | shift0213 (version : Eastern.Version)
  | korean
  | unified
  | johab
  /-- ISO 2022 for Japanese, with the sets of one of its forms. -/
  | iso2022Jp
  | iso2022Jp1
  | iso2022Jp2
  | iso2022Jp0213 (version : Eastern.Version)
  | iso2022JpExtended
  | iso2022Kr
  deriving DecidableEq, Repr

namespace EasternEncoding

open Eastern

/-- All encodings, and how they are called. -/
def all : List (EncodingName × EasternEncoding) :=
  [(⟨"gb2312", ["chinese", "csiso58gb231280", "euc_cn", "euccn", "eucgb2312_cn", "gb2312_1980",
     "gb2312_80", "iso_ir_58", "x_mac_simp_chinese"]⟩, gb2312),
   (⟨"gbk", ["936", "cp936", "ms936"]⟩, gbk),
   (⟨"gb18030", ["gb18030_2000"]⟩, gb18030),
   (⟨"hz", ["hz_gb", "hz_gb_2312", "hzgb"]⟩, hz),
   (⟨"big5", ["big5_tw", "csbig5", "x_mac_trad_chinese"]⟩, big5),
   (⟨"cp950", ["950", "ms950"]⟩, big5Windows),
   (⟨"big5hkscs", ["big5_hkscs", "hkscs"]⟩, big5HongKong),
   (⟨"euc_jp", ["eucjp", "u_jis", "ujis"]⟩, eucJis),
   (⟨"euc_jisx0213", ["eucjisx0213"]⟩, euc0213 .of2000),
   (⟨"euc_jis_2004", ["euc_jis2004", "eucjis2004", "jisx0213"]⟩, euc0213 .of2004),
   (⟨"shift_jis", ["csshiftjis", "s_jis", "shiftjis", "sjis", "x_mac_japanese"]⟩, shiftJis),
   (⟨"cp932", ["932", "ms932", "ms_kanji", "mskanji"]⟩, shiftWindows),
   (⟨"shift_jisx0213", ["s_jisx0213", "shiftjisx0213", "sjisx0213"]⟩, shift0213 .of2000),
   (⟨"shift_jis_2004", ["s_jis_2004", "shiftjis2004", "sjis_2004"]⟩, shift0213 .of2004),
   (⟨"euc_kr", ["euckr", "korean", "ks_c_5601", "ks_c_5601_1987", "ks_x_1001", "ksc5601", "ksx1001",
     "x_mac_korean"]⟩, korean),
   (⟨"cp949", ["949", "ms949", "uhc"]⟩, unified),
   (⟨"johab", ["cp1361", "ms1361"]⟩, johab),
   (⟨"iso2022_jp", ["csiso2022jp", "iso2022jp", "iso_2022_jp"]⟩, iso2022Jp),
   (⟨"iso2022_jp_1", ["iso2022jp_1", "iso_2022_jp_1"]⟩, iso2022Jp1),
   (⟨"iso2022_jp_2", ["iso2022jp_2", "iso_2022_jp_2"]⟩, iso2022Jp2),
   (⟨"iso2022_jp_3", ["iso2022jp_3", "iso_2022_jp_3"]⟩, iso2022Jp0213 .of2000),
   (⟨"iso2022_jp_2004", ["iso2022jp_2004", "iso_2022_jp_2004"]⟩, iso2022Jp0213 .of2004),
   (⟨"iso2022_jp_ext", ["iso2022jp_ext", "iso_2022_jp_ext"]⟩, iso2022JpExtended),
   (⟨"iso2022_kr", ["csiso2022kr", "iso2022kr", "iso_2022_kr"]⟩, iso2022Kr)]

def codec (e : EasternEncoding) : String :=
  ((all.find? fun (_, other) => other == e).map fun (called, _) => called.own).getD ""

def japaneseSets : List Designated := [.jisX0208, .roman, .jisX0208First]

def decode (e : EasternEncoding) (bytes : List UInt8) : Except EncodingFault (List Char) :=
  let steps (step : List Nat → Step) :=
    decodeSteps e.codec (fun _ bytes => ((), step bytes)) () 0 bytes
  let switched (s : Switching) := decodeSteps e.codec s.step {} 0 bytes
  match e with
  | gb2312 => steps (Step.double gb2312Char?)
  | gbk => steps (Step.double gbkChar?)
  | gb18030 => steps gb18030Step
  | hz => decodeSteps e.codec hzStep false 0 bytes
  | big5 => steps (Step.double big5Char?)
  | big5Windows => steps (Step.double windowsBig5Char?)
  | big5HongKong => steps hongKongStep
  | eucJis => steps eucJisStep
  | euc0213 version => steps (euc0213Step version)
  | shiftJis => steps shiftJisStep
  | shiftWindows => steps shiftWindowsStep
  | shift0213 version => steps (shift0213Step version)
  | korean => steps spellingStep
  | unified => steps (Step.double unifiedChar?)
  | johab => steps (Step.double johabChar?)
  | iso2022Jp => switched ⟨japaneseSets, false, false, true⟩
  | iso2022Jp1 => switched ⟨.jisX0212 :: japaneseSets, false, false, true⟩
  | iso2022Jp2 =>
    switched ⟨[.jisX0212, .ksX1001, .gb2312, .latin1, .greek] ++ japaneseSets, false, true, true⟩
  | iso2022Jp0213 version =>
    switched ⟨[.jisX0208, .jisX0213First version, .jisX0213Second], false, false, true⟩
  | iso2022JpExtended => switched ⟨[.jisX0212, .katakana] ++ japaneseSets, false, false, true⟩
  | iso2022Kr => switched ⟨[.ksX1001], true, false, false⟩

end EasternEncoding
end ChangelogViews.Text
