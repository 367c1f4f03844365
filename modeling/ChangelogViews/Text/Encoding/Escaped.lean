import ChangelogViews.Text.Encoding.Fault
import ChangelogViews.Text.Loose

/-!
# Characters behind backslashes

Two encodings write the characters up to 0xff as one byte each and all others as a backslash with a
number behind it. The shorter one knows nothing but such numbers, the longer one also the escapes of
quoted texts.
-/

namespace ChangelogViews.Text.Escaped

inductive Escapes where
  | numbers
  | all
  deriving DecidableEq, Repr

def Escapes.codec : Escapes → String
  | .numbers => "rawunicodeescape"
  | .all => "unicodeescape"

def Escapes.tooLarge : Escapes → String
  | .numbers => "\\Uxxxxxxxx out of range"
  | .all => "illegal Unicode character"

def backslash : UInt8 := 0x5c

def charOf (byte : UInt8) : Char := Char.ofNat byte.toNat

def hexDigit? (byte : UInt8) : Option Nat :=
  let code := byte.toNat
  if 0x30 ≤ code && code ≤ 0x39 then some (code - 0x30)
  else if 0x41 ≤ code && code ≤ 0x46 then some (code - 0x41 + 10)
  else if 0x61 ≤ code && code ≤ 0x66 then some (code - 0x61 + 10)
  else none

def octalDigit? (byte : UInt8) : Option Nat := (hexDigit? byte).filter (· < 8)

/-- The digits in front, at most some. -/
def digits (digit? : UInt8 → Option Nat) : (most : Nat) → List UInt8 → List Nat
  | most + 1, byte :: rest =>
    match digit? byte with
    | some d => d :: digits digit? most rest
    | none => []
  | _, _ => []

def number (base : Nat) (ds : List Nat) : Nat := ds.foldl (fun n d => n * base + d) 0

/-- The character of a code point, also of one that is half of a pair. -/
def charOfCode (code : Nat) : Char := if (Half.ofCode? code).isSome then loneHalf else Char.ofNat code

/-- What an escape writes and how many bytes it has behind the backslash, or why it is none and how
many bytes show that. -/
abbrev Reading := Except (String × Nat) (List Char × Nat)

/-- A letter with a number of `count` digits behind it. -/
def numbered (escapes : Escapes) (letter : Char) (count : Nat) (rest : List UInt8) : Reading :=
  let ds := digits hexDigit? count rest
  let shape := String.ofList (List.replicate count 'X')
  if ds.length < count then .error (s!"truncated \\{letter}{shape} escape", 1 + ds.length)
  else
    let code := number 16 ds
    if 0x10ffff < code then .error (escapes.tooLarge, 1 + count)
    else .ok ([charOfCode code], 1 + count)

/-- A character by its name in braces. No names are known. -/
def named (rest : List UInt8) : Reading :=
  let malformed := "malformed \\N character escape"
  match rest with
  | 0x7b :: rest =>
    let name := rest.takeWhile (· ≠ 0x7d)
    if name.length = rest.length then .error (malformed, 2 + name.length)
    else if name.isEmpty then .error (malformed, 2)
    else .error ("unknown Unicode character name", 3 + name.length)
  | _ => .error (malformed, 1)

def letters : List (Char × Char) :=
  [('\\', '\\'), ('\x27', '\x27'), ('\x22', '\x22'), ('b', '\x08'), ('f', '\x0c'), ('t', '\t'),
   ('n', '\n'), ('r', '\r'), ('v', '\x0b'), ('a', '\x07')]

def escape (escapes : Escapes) : List UInt8 → Reading
  | [] =>
    match escapes with
    | .numbers => .ok (['\\'], 0)
    | .all => .error ("\\ at end of string", 0)
  | byte :: rest =>
    let c := charOf byte
    if c = 'u' then numbered escapes c 4 rest
    else if c = 'U' then numbered escapes c 8 rest
    else if escapes = .numbers then .ok (['\\', c], 1)
    else if c = 'x' then numbered escapes c 2 rest
    else if c = 'N' then named rest
    else if c = '\n' then .ok ([], 1)
    else
      match letters.lookup c, digits octalDigit? 3 (byte :: rest) with
      | some other, _ => .ok ([other], 1)
      | none, [] => .ok (['\\', c], 1)
      | none, ds => .ok ([Char.ofNat (number 8 ds)], ds.length)

def decodeFrom (escapes : Escapes) (position : Nat) (bytes : List UInt8) :
    Except EncodingFault (List Char) :=
  match bytes with
  | [] => .ok []
  | byte :: rest =>
    if byte ≠ backslash then do
      let tail ← decodeFrom escapes (position + 1) rest
      return charOf byte :: tail
    else
      match escape escapes rest with
      | .error (reason, length) =>
        .error (.undecodable escapes.codec position (byte :: rest.take length) reason)
      | .ok (written, length) => do
        let tail ← decodeFrom escapes (position + 1 + length) (rest.drop length)
        return written ++ tail
termination_by bytes.length
decreasing_by all_goals simp only [List.length_cons, List.length_drop]; omega

def decode (escapes : Escapes) (bytes : List UInt8) : Except EncodingFault (List Char) :=
  decodeFrom escapes 0 bytes

end ChangelogViews.Text.Escaped
