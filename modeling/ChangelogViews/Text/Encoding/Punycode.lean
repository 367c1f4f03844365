import ChangelogViews.Text.Encoding.CodePage
import ChangelogViews.Text.Loose

/-!
# Punycode

The characters of ASCII stand in front of the last hyphen, and behind it numbers tell which other
characters are put where between them. A number has digits to the base of 36, of which the last one
lies under a threshold that depends on the numbers before.
-/

namespace ChangelogViews.Text.Punycode

def digit? (c : Char) : Option Nat :=
  if c.isDigit then some (c.toNat - 0x30 + 26)
  else if c.isUpper then some (c.toNat - 0x41)
  else if c.isLower then some (c.toNat - 0x61)
  else none

def threshold (place bias : Nat) : Nat := max 1 (min 26 (36 * (place + 1) - bias))

/-- The number in front and what is behind it. -/
def number (bias : Nat) (place weight : Nat) : List Char → Except PunycodeFault (Nat × List Char)
  | [] => .error .cutNumber
  | c :: rest =>
    match digit? c with
    | none => .error (.badDigit (c.toUpper))
    | some d =>
      let t := threshold place bias
      if d < t then .ok (d * weight, rest)
      else do
        let (n, rest) ← number bias (place + 1) (weight * (36 - t)) rest
        return (d * weight + n, rest)

/-- How often a number is divided until it is small, and what is left of it. -/
def divided (n : Nat) : Nat × Nat :=
  if 455 < n then
    let (times, left) := divided (n / 35)
    (times + 1, left)
  else (0, n)
termination_by n
decreasing_by omega

/-- The bias behind a number, where so many characters are written. -/
def nextBias (n : Nat) (isFirst : Bool) (count : Nat) : Nat :=
  let n := if isFirst then n / 700 else n / 2
  let (times, left) := divided (n + n / count)
  36 * times + 36 * left / (left + 38)

/-- What is written up to a number: the characters, the last code point and its place. -/
structure Progress where
  written : List Char
  code : Nat := 0x80
  place : Nat := 0
  bias : Nat := 72
  isFirst : Bool := true

def Progress.put (p : Progress) (n : Nat) : Except PunycodeFault Progress :=
  let count := p.written.length + 1
  let code := p.code + (p.place + n) / count
  let place := (p.place + n) % count
  if 0x10ffff < code then .error (.badCode code)
  else
    let c := if (Half.ofCode? code).isSome then loneHalf else Char.ofNat code
    .ok ⟨p.written.take place ++ c :: p.written.drop place, code, place + 1,
      nextBias n p.isFirst count, false⟩

/-- What is written behind all numbers. There are no more of them than characters. -/
def insertAll : (fuel : Nat) → Progress → List Char → Except PunycodeFault (List Char)
  | _, p, [] => .ok p.written
  | 0, p, _ => .ok p.written
  | fuel + 1, p, cs => do
    let (n, rest) ← number p.bias 0 1 cs
    insertAll fuel (← p.put n) rest

/-- The characters in front with those that numbers put between them. -/
def insertBehind (front numbers : List Char) : Except PunycodeFault (List Char) :=
  insertAll numbers.length ⟨front, 0x80, 0, 72, true⟩ numbers

def cutLast {α : Type} [BEq α] (mark : α) (l : List α) : List α × List α :=
  let behind := (l.reverse.takeWhile fun a => !(a == mark)).reverse
  (l.take (l.length - behind.length - 1), behind)

def decodeChars (cs : List Char) : Except PunycodeFault (List Char) :=
  let (front, numbers) := cutLast '-' cs
  insertBehind front numbers

def decode (bytes : List UInt8) : Except EncodingFault (List Char) := do
  let (front, numbers) := cutLast 0x2d bytes
  (insertBehind (← decodeAscii front) (← decodeAscii numbers)).mapError .punycode

end ChangelogViews.Text.Punycode
