import ChangelogViews.Text.Quoted

/-!
# Bytes as text

Reading UTF-8 by the table of well-formed sequences: the first byte fixes the range of each byte
that follows. The first sequence outside the table is reported with its place and its bytes.
-/

namespace ChangelogViews.Text

inductive Utf8Reason where
  | badStart
  | badContinuation
  | cutShort
  deriving DecidableEq, Repr

def Utf8Reason.message : Utf8Reason → String
  | .badStart => "invalid start byte"
  | .badContinuation => "invalid continuation byte"
  | .cutShort => "unexpected end of data"

/-- The bytes from position `start` on that do not begin a character. -/
structure Utf8Fault where
  reason : Utf8Reason
  start : Nat
  bytes : List UInt8
  deriving DecidableEq, Repr

/-- The sentence for bytes from position `start` on that a table of characters does not hold. -/
def undecodable (codec : String) (start : Nat) (bytes : List UInt8) (reason : String) : String :=
  let place := match bytes with
    | [byte] => s!"byte 0x{String.ofList (hexDigits 2 byte.toNat)} in position {start}"
    | bytes => s!"bytes in position {start}-{start + bytes.length - 1}"
  s!"'{codec}' codec can't decode {place}: {reason}"

def Utf8Fault.message (fault : Utf8Fault) : String :=
  undecodable "utf-8" fault.start fault.bytes fault.reason.message

structure ByteRange where
  low : Nat
  high : Nat
  deriving DecidableEq, Repr

def ByteRange.continuation : ByteRange := ⟨0x80, 0xbf⟩

/-- The ranges of the bytes that follow a first byte, `none` if it begins no sequence. -/
def followers (first : Nat) : Option (List ByteRange) :=
  if first < 0x80 then some []
  else if first < 0xc2 then none
  else if first < 0xe0 then some [.continuation]
  else if first < 0xf0 then
    some [⟨if first = 0xe0 then 0xa0 else 0x80, if first = 0xed then 0x9f else 0xbf⟩, .continuation]
  else if first < 0xf5 then
    some [⟨if first = 0xf0 then 0x90 else 0x80, if first = 0xf4 then 0x8f else 0xbf⟩, .continuation,
      .continuation]
  else none

/-- The bits of the code point that a first byte holds. -/
def firstBits (first : Nat) : Nat :=
  if first < 0x80 then first
  else if first < 0xe0 then first - 0xc0
  else if first < 0xf0 then first - 0xe0
  else first - 0xf0

/-- A sequence of which the bytes `bytes` were read and the bytes in `next` and `later` are due. -/
structure OpenSequence where
  start : Nat
  bytes : List UInt8
  code : Nat
  next : ByteRange
  later : List ByteRange

/-- Characters of the bytes from a position on, inside an open sequence or between two. -/
def decodeFrom (position : Nat) : Option OpenSequence → List UInt8 → Except Utf8Fault (List Char)
  | none, [] => .ok []
  | some s, [] => .error ⟨.cutShort, s.start, s.bytes⟩
  | none, byte :: rest =>
    match followers byte.toNat with
    | none => .error ⟨.badStart, position, [byte]⟩
    | some [] => do
      let tail ← decodeFrom (position + 1) none rest
      return Char.ofNat byte.toNat :: tail
    | some (next :: later) =>
      decodeFrom (position + 1) (some ⟨position, [byte], firstBits byte.toNat, next, later⟩) rest
  | some s, byte :: rest =>
    let n := byte.toNat
    if s.next.low ≤ n ∧ n ≤ s.next.high then
      let code := s.code * 64 + (n - 0x80)
      match s.later with
      | [] => do
        let tail ← decodeFrom (position + 1) none rest
        return Char.ofNat code :: tail
      | next :: later =>
        decodeFrom (position + 1) (some ⟨s.start, s.bytes ++ [byte], code, next, later⟩) rest
    else .error ⟨.badContinuation, s.start, s.bytes⟩

def decodeUtf8 (bytes : List UInt8) : Except Utf8Fault (List Char) := decodeFrom 0 none bytes

end ChangelogViews.Text
