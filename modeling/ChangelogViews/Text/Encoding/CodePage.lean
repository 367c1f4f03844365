import ChangelogViews.Text.Encoding.Fault

/-!
# Code pages

An encoding that writes each character as one byte is the table of these characters. Almost all code
pages agree with ASCII below 0x80.
-/

namespace ChangelogViews.Text

/-- What a code page has in place of a character where a byte has no meaning. -/
def undefinedChar : Char := Char.ofNat 0xfffd

/-- The characters of the bytes. -/
structure CodePage where
  /-- The characters of the bytes below 0x80, those of ASCII if no others are given. -/
  low : Option String := none
  high : String
  deriving DecidableEq, Repr

namespace CodePage

def char? (page : CodePage) (byte : UInt8) : Option Char :=
  let code := byte.toNat
  let found := if code < 0x80 then
      match page.low with
      | none => some (Char.ofNat code)
      | some low => low.toList[code]?
    else page.high.toList[code - 0x80]?
  found.filter (· ≠ undefinedChar)

end CodePage

def decodeBytes (codec reason : String) (char? : UInt8 → Option Char) (position : Nat) :
    List UInt8 → Except EncodingFault (List Char)
  | [] => .ok []
  | byte :: rest =>
    match char? byte with
    | none => .error (.undecodable codec position [byte] reason)
    | some c => do
      let tail ← decodeBytes codec reason char? (position + 1) rest
      return c :: tail

namespace CodePage

def decode (page : CodePage) : List UInt8 → Except EncodingFault (List Char) :=
  decodeBytes "charmap" "character maps to <undefined>" page.char? 0

end CodePage

def decodeAscii : List UInt8 → Except EncodingFault (List Char) :=
  decodeBytes "ascii" "ordinal not in range(128)"
    (fun byte => if byte.toNat < 0x80 then some (Char.ofNat byte.toNat) else none) 0

/-- The characters up to 0xff, of which each byte writes the one of its number. -/
def decodeLatin1 (bytes : List UInt8) : List Char := bytes.map fun byte => Char.ofNat byte.toNat

end ChangelogViews.Text
