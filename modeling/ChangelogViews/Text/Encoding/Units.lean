import ChangelogViews.Text.Encoding.Fault
import ChangelogViews.Text.Loose

/-!
# Units of several bytes

Characters may be written as units of two bytes, of which those beyond the first plane take a pair, or
as units of four. Either way the bytes of a unit stand in one of two orders, and a mark in front of
all may tell which.
-/

namespace ChangelogViews.Text

inductive ByteOrder where
  | little
  | big
  deriving DecidableEq, Repr

namespace ByteOrder

/-- The ending of an encoding's name that tells the order. -/
def ending : ByteOrder → String
  | .little => "le"
  | .big => "be"

/-- The number that bytes write, the greatest first. -/
def number (bytes : List UInt8) : Nat := bytes.foldl (fun n byte => 0x100 * n + byte.toNat) 0

def unit (order : ByteOrder) (bytes : List UInt8) : Nat :=
  match order with
  | .little => number bytes.reverse
  | .big => number bytes

end ByteOrder

def badPairs (order : ByteOrder) (position : Nat) (bytes : List UInt8) (reason : String) :
    EncodingFault :=
  .undecodable ("utf-16-" ++ order.ending) position bytes reason

def decodeUnits (order : ByteOrder) (position : Nat) :
    List UInt8 → Except EncodingFault (List Char)
  | [] => .ok []
  | [byte] => .error (badPairs order position [byte] "truncated data")
  | first :: second :: rest =>
    let unit := order.unit [first, second]
    match Half.ofCode? unit with
    | none => do
      let tail ← decodeUnits order (position + 2) rest
      return Char.ofNat unit :: tail
    | some half =>
      if half.isFirst then
        match rest with
        | third :: fourth :: rest =>
          match (Half.ofCode? (order.unit [third, fourth])).bind half.pair? with
          | some c => do
            let tail ← decodeUnits order (position + 4) rest
            return c :: tail
          | none => .error (badPairs order position [first, second] "illegal UTF-16 surrogate")
        | rest => .error (badPairs order position (first :: second :: rest) "unexpected end of data")
      else .error (badPairs order position [first, second] "illegal encoding")

/-- The characters of units of two bytes behind a mark. Without one they have to be units all the
same. -/
def decodeMarkedUnits : List UInt8 → Except EncodingFault (List Char)
  | 0xff :: 0xfe :: rest => decodeUnits .little 2 rest
  | 0xfe :: 0xff :: rest => decodeUnits .big 2 rest
  | bytes => do
    let _ ← decodeUnits .little 0 bytes
    if bytes.isEmpty then return [] else throw (.unmarked "UTF-16")

def codeLimit : Nat := 0x110000

def badWhole (order : ByteOrder) (position : Nat) (bytes : List UInt8) (reason : String) :
    EncodingFault :=
  .undecodable ("utf-32-" ++ order.ending) position bytes reason

def decodeWhole (order : ByteOrder) (position : Nat) :
    List UInt8 → Except EncodingFault (List Char)
  | [] => .ok []
  | first :: second :: third :: fourth :: rest =>
    let bytes := [first, second, third, fourth]
    let code := order.unit bytes
    if (Half.ofCode? code).isSome then
      .error (badWhole order position bytes
        "code point in surrogate code point range(0xd800, 0xe000)")
    else if code < codeLimit then do
      let tail ← decodeWhole order (position + 4) rest
      return Char.ofNat code :: tail
    else .error (badWhole order position bytes "code point not in range(0x110000)")
  | rest => .error (badWhole order position rest "truncated data")

/-- The characters of units of four bytes behind a mark. Without one they have to be units all the
same. -/
def decodeMarkedWhole : List UInt8 → Except EncodingFault (List Char)
  | 0xff :: 0xfe :: 0 :: 0 :: rest => decodeWhole .little 4 rest
  | 0 :: 0 :: 0xfe :: 0xff :: rest => decodeWhole .big 4 rest
  | bytes => do
    let _ ← decodeWhole .little 0 bytes
    if bytes.isEmpty then return [] else throw (.unmarked "UTF-32")

end ChangelogViews.Text
