import ChangelogViews.Document.Floating
import ChangelogViews.Document.Value
import ChangelogViews.Document.Yaml.Fault
import ChangelogViews.Document.Yaml.Plain
import ChangelogViews.Text.Digits
import ChangelogViews.Text.Lowercase

/-!
# What a scalar means

The meaning of a text as a scalar of its type, and which scalars mean the same: a truth value is as
good as zero or one, and a number is the same whether it is written with a point or without. Two
numbers that are undefined are not the same, unless both are written with the word for it.
-/

namespace ChangelogViews.Yaml

/-- A timestamp: a day alone, a time without an offset, or one in universal time, in microseconds. -/
inductive Moment where
  | day (year month day : Nat)
  | here (year month day micros : Nat)
  | everywhere (micros : Int)
  deriving DecidableEq, Repr

/-- A scalar with its value. -/
inductive Scalar where
  | null
  | bool (b : Bool)
  | whole (n : Int)
  | real (x : Floating) (byWord : Bool)
  | text (s : LooseText)
  | bytes (data : List UInt8)
  | moment (m : Moment)
  deriving Repr

namespace Scalar

def units? : Scalar → Option Int
  | .bool b => some (if b then Floating.one else 0)
  | .whole n => some (n * Floating.one)
  | .real (.finite units) _ => some units
  | _ => none

def same : Scalar → Scalar → Bool
  | .null, .null => true
  | .text s, .text t => s == t
  | .bytes a, .bytes b => a == b
  | .moment m, .moment n => m == n
  | .real (.infinite a) _, .real (.infinite b) _ => a == b
  | .real .undefined a, .real .undefined b => a && b
  | a, b => a.units?.isSome && a.units? == b.units?

end Scalar

def truth (word : String) : Except YamlFault Scalar :=
  match Text.lower word with
  | "yes" => .ok (.bool true)
  | "true" => .ok (.bool true)
  | "on" => .ok (.bool true)
  | "no" => .ok (.bool false)
  | "false" => .ok (.bool false)
  | "off" => .ok (.bool false)
  | other => .error (.notTruth other)

def digitIn? (base : Nat) (c : Char) : Option Nat :=
  let d :=
    if c.isDigit then c.toNat - '0'.toNat
    else if 'a' ≤ c && c ≤ 'f' then c.toNat - 'a'.toNat + 10
    else if 'A' ≤ c && c ≤ 'F' then c.toNat - 'A'.toNat + 10
    else base
  if d < base then some d else none

def dropMark (base : Nat) : List Char → List Char
  | '0' :: mark :: digits =>
    let marks := if base = 2 then ['b', 'B'] else if base = 8 then ['o', 'O']
      else if base = 16 then ['x', 'X'] else []
    if marks.contains mark then digits else '0' :: mark :: digits
  | cs => cs

/-- The number that digits in a base write, with a sign and the mark of the base or without. In base
ten there is a limit to their number. -/
def numberIn (base : Nat) (written : List Char) : Except YamlFault Int :=
  let cs := Text.numeral written
  let digits := dropMark base (dropSign cs)
  if digits.isEmpty || (base = 10 && Text.mostDigits < digits.length) then .error .scalar
  else
    match digits.foldlM (fun n c => (digitIn? base c).map (n * base + ·)) 0 with
    | some n => .ok (if cs.head? = some '-' then -(n : Int) else n)
    | none => .error .scalar

def whole (written : String) : Except YamlFault Scalar := do
  let cs := written.toList.filter (· != '_')
  let unsigned := dropSign cs
  let size ←
    match unsigned with
    | [] => throw .emptyNumber
    | ['0'] => pure 0
    | '0' :: 'b' :: digits => numberIn 2 digits
    | '0' :: 'x' :: digits => numberIn 16 digits
    | '0' :: _ => numberIn 8 unsigned
    | _ =>
      if unsigned.contains ':' then do
        let parts ← (unsigned.splitOn ':').mapM (numberIn 10)
        pure (parts.foldl (fun n part => n * 60 + part) 0)
      else numberIn 10 unsigned
  return .whole (if cs.head? = some '-' then -size else size)

def floating (cs : List Char) : Except YamlFault Floating :=
  match Floating.ofNumeral? (Text.numeral cs) with
  | some x => .ok x
  | none => .error .scalar

/-- The sum of parts in base sixty, the last part first, where the first of them counts `base`. -/
def sixtiethsSum (sum : Floating) (base : Nat) : List Floating → Except YamlFault Floating
  | [] => .ok sum
  | part :: rest =>
    match Floating.ofWhole? base with
    | some size => sixtiethsSum (sum.add (part.times size)) (base * 60) rest
    | none => .error .numberTooLarge

def real (written : String) : Except YamlFault Scalar := do
  let cs := (Text.lower written).toList.filter (· != '_')
  let unsigned := dropSign cs
  let signed (x : Floating) : Floating := if cs.head? = some '-' then x.neg else x
  if cs.isEmpty then throw .emptyNumber
  else if unsigned = ['.', 'i', 'n', 'f'] then return .real (signed (.infinite false)) true
  else if unsigned = ['.', 'n', 'a', 'n'] then return .real .undefined true
  else if unsigned.contains ':' then do
    let parts ← (unsigned.splitOn ':').mapM floating
    return .real (signed (← sixtiethsSum (.finite 0) 1 parts.reverse)) false
  else return .real (signed (← floating unsigned)) false

def monthDays (year month : Nat) : Nat :=
  if month = 2 then
    if year % 4 = 0 && (year % 100 ≠ 0 || year % 400 = 0) then 29 else 28
  else if [4, 6, 9, 11].contains month then 30
  else 31

def Day.isReal (d : Day) : Bool :=
  1 ≤ d.year && 1 ≤ d.month && d.month ≤ 12 && 1 ≤ d.day && d.day ≤ monthDays d.year d.month

def Clock.isReal (c : Clock) : Bool :=
  c.hour < 24 && c.minute < 60 && c.second < 60 && (c.ahead.getD 0).natAbs < 24 * 60

/-- The days before a day, counted from the first day of the first year. -/
def Day.before (d : Day) : Nat :=
  let years := d.year - 1
  let months := (List.range (d.month - 1)).foldl (fun days m => days + monthDays d.year (m + 1)) 0
  years * 365 + years / 4 - years / 100 + years / 400 + months + (d.day - 1)

def Clock.sinceMidnight (c : Clock) : Nat :=
  ((c.hour * 60 + c.minute) * 60 + c.second) * 1000000 + c.micros

def momentOf (d : Day) : Option Clock → Moment
  | none => .day d.year d.month d.day
  | some c =>
    match c.ahead with
    | none => .here d.year d.month d.day c.sinceMidnight
    | some ahead =>
      .everywhere (d.before * (24 * 60 * 60 * 1000000) + c.sinceMidnight - ahead * 60 * 1000000)

def moment (written : String) : Except YamlFault Scalar :=
  match moment? (beforeFeed written).toList with
  | none => .error .notMoment
  | some (day, clock) =>
    if day.isReal && (clock.map Clock.isReal).getD true then .ok (.moment (momentOf day clock))
    else .error .scalar

def base64Value? (c : Char) : Option Nat :=
  if 'A' ≤ c && c ≤ 'Z' then some (c.toNat - 'A'.toNat)
  else if 'a' ≤ c && c ≤ 'z' then some (c.toNat - 'a'.toNat + 26)
  else if c.isDigit then some (c.toNat - '0'.toNat + 52)
  else if c = '+' then some 62
  else if c = '/' then some 63
  else none

/-- The bytes of digits in base sixty-four. `digits` are those of the group that is open, `pads` the
signs that fill it up. Other characters are passed over. -/
def base64 (digits : List Nat) (pads : Nat) : List Char → Option (List UInt8)
  | [] => if digits.isEmpty then some [] else none
  | c :: rest =>
    if c = '=' then
      if digits.length ≥ 2 && digits.length + pads + 1 ≥ 4 then some (part digits)
      else base64 digits (if digits.length ≥ 2 then pads + 1 else pads) rest
    else
      match base64Value? c with
      | none => base64 digits pads rest
      | some v =>
        let digits := digits ++ [v]
        if digits.length = 4 then (base64 [] 0 rest).map (part digits ++ ·)
        else base64 digits 0 rest
where
  /-- The whole bytes in a group of digits. -/
  part (digits : List Nat) : List UInt8 :=
    match digits with
    | [a, b] => [UInt8.ofNat (a * 4 + b / 16)]
    | [a, b, c] => [UInt8.ofNat (a * 4 + b / 16), UInt8.ofNat (b % 16 * 16 + c / 4)]
    | [a, b, c, d] =>
      [UInt8.ofNat (a * 4 + b / 16), UInt8.ofNat (b % 16 * 16 + c / 4),
        UInt8.ofNat (c % 4 * 64 + d)]
    | _ => []

def binary (written : String) : Except YamlFault Scalar :=
  if written.toList.all fun c => c.toNat < 0x80 then
    match base64 [] 0 written.toList with
    | some bytes => .ok (.bytes bytes)
    | none => .error .meaning
  else .error .meaning

/-- The meaning of a text without surrogates as a scalar of a type. -/
def wholeMeaning (tag : Tag) (text : String) : Except YamlFault Scalar :=
  match tag with
  | .null => .ok .null
  | .bool => truth text
  | .int => whole text
  | .float => real text
  | .binary => binary text
  | .timestamp => moment text
  | .str => .ok (.text text)
  | _ => .error .meaning

/-- The meaning of a text as a scalar of a type. Nothing but a text is written with surrogates. -/
def scalarMeaning (tag : Tag) (text : LooseText) : Except YamlFault Scalar :=
  match text.whole?, tag with
  | some whole, tag => wholeMeaning tag whole
  | none, .null => .ok .null
  | none, .bool => .error (.notTruth text.lower)
  | none, .int => .error .scalar
  | none, .float => .error .scalar
  | none, .timestamp => .error .notMoment
  | none, .str => .ok (.text text)
  | none, _ => .error .meaning

end ChangelogViews.Yaml
