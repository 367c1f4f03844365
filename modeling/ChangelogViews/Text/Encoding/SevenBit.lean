import ChangelogViews.Text.Encoding.Fault
import ChangelogViews.Text.Loose

/-!
# Seven bits for each byte

UTF-7 writes characters of ASCII as they are and all others in runs of digits to the base of 64, six
bits each. A run begins with a plus, holds units of two bytes, and ends at the first other character,
which is dropped if it is a hyphen.
-/

namespace ChangelogViews.Text.SevenBit

def plus : UInt8 := 0x2b

def hyphen : UInt8 := 0x2d

def digit? (byte : UInt8) : Option Nat :=
  let code := byte.toNat
  if 0x41 ≤ code && code ≤ 0x5a then some (code - 0x41)
  else if 0x61 ≤ code && code ≤ 0x7a then some (code - 0x61 + 26)
  else if 0x30 ≤ code && code ≤ 0x39 then some (code - 0x30 + 52)
  else if byte = plus then some 62
  else if code = 0x2f then some 63
  else none

/-- A run of digits: its bytes, the last first, the bits that make no unit yet, and the high
surrogate that waits for a low one. -/
structure Run where
  bytes : List UInt8
  bits : Nat := 0
  value : Nat := 0
  half : Option Half := none

namespace Run

/-- What a unit writes, and the surrogate that it leaves. -/
def write (half : Option Half) (unit : Nat) : List Char × Option Half :=
  match half, Half.ofCode? unit with
  | some first, some second =>
    match first.pair? second with
    | some c => ([c], none)
    | none => if second.isFirst then ([loneHalf], some second) else ([loneHalf, loneHalf], none)
  | some _, none => ([loneHalf, Char.ofNat unit], none)
  | none, some h => if h.isFirst then ([], some h) else ([loneHalf], none)
  | none, none => ([Char.ofNat unit], none)

/-- The run behind a digit, and what that writes. -/
def add (r : Run) (byte : UInt8) (digit : Nat) : List Char × Run :=
  let bits := r.bits + 6
  let value := r.value * 64 + digit
  if bits < 16 then ([], { r with bytes := byte :: r.bytes, bits, value })
  else
    let scale := Nat.pow 2 (bits - 16)
    let (written, half) := write r.half (value / scale)
    (written, ⟨byte :: r.bytes, bits - 16, value % scale, half⟩)

def fault (r : Run) (position : Nat) (reason : String) : EncodingFault :=
  .undecodable "utf7" (position - r.bytes.length) r.bytes.reverse reason

/-- What is still written where a byte ends a run. -/
def leave (r : Run) (position : Nat) (byte : UInt8) : Except EncodingFault (List Char) :=
  let ended : Run := { r with bytes := byte :: r.bytes }
  if 6 ≤ r.bits then
    .error (ended.fault (position + 1) "partial character in shift sequence")
  else if r.value ≠ 0 then
    .error (ended.fault (position + 1) "non-zero padding bits in shift sequence")
  else .ok (if r.half.isSome && byte.toNat < 0x80 then [loneHalf] else [])

def finish (r : Run) (position : Nat) : Except EncodingFault (List Char) :=
  if r.half.isSome || 6 ≤ r.bits || r.value ≠ 0 then
    .error (r.fault position "unterminated shift sequence")
  else .ok []

end Run

/-- The characters of bytes from a position on, inside a run or outside. -/
def decodeFrom (position : Nat) : Option Run → List UInt8 → Except EncodingFault (List Char)
  | none, [] => .ok []
  | some r, [] => r.finish position
  | run, byte :: rest =>
    match run, digit? byte with
    | some r, some digit => do
      let (written, r) := r.add byte digit
      return written ++ (← decodeFrom (position + 1) (some r) rest)
    | run, _ => do
      let written ← match run with
        | some r => r.leave position byte
        | none => .ok []
      if run.isSome && byte = hyphen then
        return written ++ (← decodeFrom (position + 1) none rest)
      else if byte = plus then
        match rest with
        | next :: rest =>
          if next = hyphen then return written ++ '+' :: (← decodeFrom (position + 2) none rest)
          else if (digit? next).isSome then
            return written ++ (← decodeFrom (position + 1) (some ⟨[byte], 0, 0, none⟩) (next :: rest))
          else throw (.undecodable "utf7" position [byte, next] "ill-formed sequence")
        | [] => return written
      else if byte.toNat < 0x80 then
        return written ++ Char.ofNat byte.toNat :: (← decodeFrom (position + 1) none rest)
      else throw (.undecodable "utf7" position [byte] "unexpected special character")

def decode (bytes : List UInt8) : Except EncodingFault (List Char) := decodeFrom 0 none bytes

end ChangelogViews.Text.SevenBit
