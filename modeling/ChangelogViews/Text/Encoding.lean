import ChangelogViews.Text.Encoding.Eastern
import ChangelogViews.Text.Encoding.Escaped
import ChangelogViews.Text.Encoding.HostName
import ChangelogViews.Text.Encoding.Pages.Cyrillic
import ChangelogViews.Text.Encoding.Pages.Dos
import ChangelogViews.Text.Encoding.Pages.Ebcdic
import ChangelogViews.Text.Encoding.Pages.Iso
import ChangelogViews.Text.Encoding.Pages.Macintosh
import ChangelogViews.Text.Encoding.Pages.Windows
import ChangelogViews.Text.Encoding.SevenBit
import ChangelogViews.Text.Encoding.Units

/-!
# Encodings

The ways of writing characters as bytes that can be asked for by name.
-/

namespace ChangelogViews.Text

/-- How bytes write characters. -/
inductive Encoding where
  | utf8
  /-- UTF-8 with a byte order mark in front, which may be missing. Of a text that is nothing but the
  start of a mark nothing is read. -/
  | utf8Marked
  | utf7
  | ascii
  | latin1
  | page (table : CodePage)
  | utf16 (order : Option ByteOrder)
  /-- Units in the order of the byte order mark in front if none is given. -/
  | utf32 (order : Option ByteOrder)
  | escaped (escapes : Escaped.Escapes)
  | eastern (encoding : EasternEncoding)
  | punycode
  | hostName
  | nothing
  deriving DecidableEq, Repr

namespace Encoding

def ofUtf8 (bytes : List UInt8) : Except EncodingFault (List Char) :=
  match decodeUtf8 bytes with
  | .ok cs => .ok cs
  | .error fault => .error (.utf8 fault)

def decode : Encoding → List UInt8 → Except EncodingFault (List Char)
  | .utf8, bytes => ofUtf8 bytes
  | .utf8Marked, 0xef :: 0xbb :: 0xbf :: rest => ofUtf8 rest
  | .utf8Marked, [0xef, 0xbb] | .utf8Marked, [0xef] => .ok []
  | .utf8Marked, bytes => ofUtf8 bytes
  | .utf7, bytes => SevenBit.decode bytes
  | .ascii, bytes => decodeAscii bytes
  | .latin1, bytes => .ok (decodeLatin1 bytes)
  | .page table, bytes => table.decode bytes
  | .utf16 none, bytes => decodeMarkedUnits bytes
  | .utf16 (some order), bytes => decodeUnits order 0 bytes
  | .utf32 none, bytes => decodeMarkedWhole bytes
  | .utf32 (some order), bytes => decodeWhole order 0 bytes
  | .escaped escapes, bytes => Escaped.decode escapes bytes
  | .eastern encoding, bytes => encoding.decode bytes
  | .punycode, bytes => Punycode.decode bytes
  | .hostName, bytes => HostName.decode bytes
  | .nothing, _ => .error .unreadable

/-- The encodings that are no code pages and not of East Asia, and how they are called. -/
def plain : List (EncodingName × Encoding) :=
  [(⟨"utf_8", ["cp65001", "u8", "utf", "utf8", "utf8_ucs2", "utf8_ucs4"]⟩, .utf8),
   (⟨"utf_8_sig", []⟩, .utf8Marked),
   (⟨"utf_7", ["u7", "unicode_1_1_utf_7", "utf7"]⟩, .utf7),
   (⟨"ascii", ["646", "ansi_x3.4_1968", "ansi_x3.4_1986", "ansi_x3_4_1968", "cp367", "csascii",
     "ibm367", "iso646_us", "iso_646.irv_1991", "iso_ir_6", "us", "us_ascii"]⟩, .ascii),
   (⟨"idna", []⟩, .hostName),
   (⟨"latin_1", ["8859", "cp819", "csisolatin1", "ibm819", "iso8859", "iso8859_1", "iso_8859_1",
     "iso_8859_1_1987", "iso_ir_100", "l1", "latin", "latin1"]⟩, .latin1),
   (⟨"charmap", []⟩, .latin1),
   (⟨"utf_16", ["u16", "utf16"]⟩, .utf16 none),
   (⟨"utf_16_le", ["unicodelittleunmarked", "utf_16le"]⟩, .utf16 (some .little)),
   (⟨"utf_16_be", ["unicodebigunmarked", "utf_16be"]⟩, .utf16 (some .big)),
   (⟨"utf_32", ["u32", "utf32"]⟩, .utf32 none),
   (⟨"utf_32_le", ["utf_32le"]⟩, .utf32 (some .little)),
   (⟨"utf_32_be", ["utf_32be"]⟩, .utf32 (some .big)),
   (⟨"raw_unicode_escape", []⟩, .escaped .numbers),
   (⟨"unicode_escape", []⟩, .escaped .all),
   (⟨"punycode", []⟩, .punycode),
   (⟨"undefined", []⟩, .nothing)]

/-- All code pages, and how they are called. -/
def pages : List (EncodingName × CodePage) :=
  Iso.pages ++ Windows.pages ++ Cyrillic.pages ++ Dos.pages ++ Macintosh.pages ++ Ebcdic.pages

/-- Names of codecs between bytes, which encode no text. -/
def ofBytes : List EncodingName :=
  [⟨"base64_codec", ["base64", "base_64"]⟩, ⟨"bz2_codec", ["bz2"]⟩, ⟨"hex_codec", ["hex"]⟩,
   ⟨"quopri_codec", ["quopri", "quoted_printable", "quotedprintable"]⟩, ⟨"rot_13", ["rot13"]⟩,
   ⟨"uu_codec", ["uu"]⟩, ⟨"zlib_codec", ["zip", "zlib"]⟩]

/-- All encodings, and how they are called. -/
def all : List (EncodingName × Encoding) :=
  plain ++ pages.map (fun (name, table) => (name, .page table)) ++
    EasternEncoding.all.map fun (name, encoding) => (name, .eastern encoding)

/-- The encoding of a name. -/
def ofName? (name : String) : Option Encoding :=
  (all.find? fun (called, _) => called.fits name).map (·.2)

def isOfBytes (name : String) : Bool := ofBytes.any (·.fits name)

end Encoding
end ChangelogViews.Text
