import ChangelogViews.Text.Encoding.Eastern.Japanese
import ChangelogViews.Text.Encoding.Eastern.Sets.Gb2312
import ChangelogViews.Text.Encoding.Eastern.Sets.KsX1001
import ChangelogViews.Text.Encoding.Pages.Iso

/-!
# Switching between sets

The encodings of ISO 2022 write all characters by bytes below 0x80. Escape sequences say which set the
bytes mean from there on: a first set, and a second one that is shifted to, or a third one for single
characters. The end of a line shifts back.
-/

namespace ChangelogViews.Text.Eastern

inductive Designated where
  | ascii
  | roman
  | katakana
  | jisX0208
  /-- The first version of JIS X 0208, which is read like the later one. -/
  | jisX0208First
  | jisX0212
  | jisX0213First (version : Version)
  | jisX0213Second
  | gb2312
  | ksX1001
  | latin1
  | greek
  deriving DecidableEq, Repr

namespace Designated

/-- The last byte of the escape sequences that switch to a set, and whether it has two numbers. -/
def mark : Designated → Nat × Bool
  | ascii => (0x42, false)
  | roman => (0x4a, false)
  | katakana => (0x49, false)
  | jisX0208 => (0x42, true)
  | jisX0208First => (0x40, true)
  | jisX0212 => (0x44, true)
  | jisX0213First .of2000 => (0x4f, true)
  | jisX0213First .of2004 => (0x51, true)
  | jisX0213Second => (0x50, true)
  | gb2312 => (0x41, true)
  | ksX1001 => (0x43, true)
  | latin1 => (0x41, false)
  | greek => (0x46, false)

def double? (set : Designated) (first second : Nat) : Option (List Char) :=
  match set with
  | jisX0208 | jisX0208First => (Eastern.jisX0208.char? first second).map ([·])
  | jisX0212 => (Eastern.jisX0212.char? first second).map ([·])
  | jisX0213First version => version.first? first second
  | jisX0213Second => (Version.of2004.second? first second).map ([·])
  | gb2312 => (Eastern.gb2312.char? first second).map ([·])
  | ksX1001 => (Eastern.ksX1001.char? first second).map ([·])
  | _ => none

/-- What is in front of bytes that mean a set, of which the first is no control. -/
def step (set : Designated) (first : Nat) (rest : List Nat) : Step :=
  match set with
  | ascii => .plain first
  | roman => Step.char (romanChar? first) 1
  | katakana => Step.char (katakana? (first + 0x80)) 1
  | latin1 | greek => .illegal 1
  | set =>
    match rest with
    | [] => .cut
    | second :: _ =>
      match set.double? first second with
      | some cs => .read cs 2
      | none => .illegal 2

/-- The Greek letters of a byte, without those that were added later. -/
def greekChar? (byte : Nat) : Option Char :=
  if [0xa4, 0xa5, 0xaa].contains byte then none else Iso.part7.char? (UInt8.ofNat byte)

/-- Three bytes of which the last one alone means a set. Most sets have no characters of one byte. -/
def single (set : Designated) (byte : Nat) : Step :=
  let read (c? : Option Char) : Step := match c? with
    | some c => .read [c] 3
    | none => .illegal 3
  match set with
  | ascii => read (if byte < 0x80 then some (Char.ofNat byte) else none)
  | latin1 => read (if byte < 0x80 then some (Char.ofNat (byte + 0x80)) else none)
  | greek => read (greekChar? ((byte + 0x80) % 0x100))
  | _ => .stuck

end Designated

/-- What an encoding of ISO 2022 switches with. -/
structure Switching where
  sets : List Designated
  /-- Two controls shift to the second set and back. -/
  hasShift : Bool := false
  /-- A third set is there for single characters. -/
  hasThird : Bool := false
  /-- The sequence for JIS X 0208 may have another one in front that tells its version. -/
  hasUpdate : Bool := false

/-- What the bytes mean at some place. -/
structure Switched where
  first : Designated := .ascii
  second : Designated := .ascii
  third : Designated := .ascii
  isShifted : Bool := false
  isForeign : Bool := false

namespace Switching

def escape : Nat := 0x1b

def isLast (byte : Nat) : Bool := 0x40 ≤ byte && byte ≤ 0x5a

/-- How long an escape sequence is from byte `i` on, zero if it does not end within 16 bytes, and
nothing if the bytes end first. -/
def escapeLength? (hasUpdate : Bool) (i : Nat) (bytes : List Nat) : Option Nat :=
  if 16 ≤ i then some 0
  else
    match bytes with
    | [] => none
    | 0x26 :: 0x40 :: _ :: rest =>
      if hasUpdate then escapeLength? hasUpdate (i + 3) rest else some (i + 2)
    | [0x26, 0x40] =>
      if !hasUpdate then some (i + 2) else if 13 ≤ i then some 0 else none
    | byte :: rest => if isLast byte then some (i + 1) else escapeLength? hasUpdate (i + 1) rest

def setOf? (e : Switching) (mark : Nat × Bool) : Option Designated :=
  (Designated.ascii :: e.sets).find? fun set => set.mark == mark

/-- The state behind an escape sequence that switches, from its second byte on. -/
def designated? (e : Switching) (s : Switched) : List Nat → Option Switched
  | [0x24, last] => (e.setOf? (last, true)).map fun set => { s with first := set }
  | [0x28, last] => (e.setOf? (last, false)).map fun set => { s with first := set }
  | [0x29, last] => (e.setOf? (last, false)).map fun set => { s with second := set }
  | [0x2e, last] =>
    if e.hasThird then (e.setOf? (last, false)).map fun set => { s with third := set } else none
  | [0x24, 0x28, last] => (e.setOf? (last, true)).map fun set => { s with first := set }
  | [0x24, 0x29, last] => (e.setOf? (last, true)).map fun set => { s with second := set }
  | [_, _, 0x1b, 0x24, 0x42] =>
    if e.hasUpdate then (e.setOf? (0x42, true)).map fun set => { s with first := set } else none
  | _ => none

/-- An escape sequence from its second byte on. -/
def escapeStep (e : Switching) (s : Switched) (rest : List Nat) : Switched × Step :=
  match escapeLength? e.hasUpdate 1 rest with
  | none => (s, .cut)
  | some 0 => (s, .illegal 1)
  | some length =>
    match e.designated? s (rest.take (length - 1)) with
    | some s => (s, .read [] length)
    | none => (s, .illegal length)

def step (e : Switching) (s : Switched) : List Nat → Switched × Step
  | [] => (s, .cut)
  | byte :: rest =>
    if s.isForeign then ({ s with isForeign := !isLast byte }, .plain byte)
    else if byte = escape then
      match rest with
      | [] => (s, .cut)
      | next :: more =>
        if [0x24, 0x26, 0x28, 0x29, 0x2e].contains next then e.escapeStep s rest
        else if e.hasThird && next = 0x4e then
          match more with
          | [] => (s, .cut)
          | third :: _ => (s, s.third.single third)
        else ({ s with isForeign := true }, .plain byte)
    else if e.hasShift && byte = 0x0f then ({ s with isShifted := false }, .read [] 1)
    else if e.hasShift && byte = 0x0e then ({ s with isShifted := true }, .read [] 1)
    else if byte = 0x0a then ({ s with isShifted := false }, .plain byte)
    else if byte < 0x20 then (s, .plain byte)
    else if 0x80 ≤ byte then (s, .illegal 1)
    else (s, (if s.isShifted then s.second else s.first).step byte rest)

end Switching
end ChangelogViews.Text.Eastern
