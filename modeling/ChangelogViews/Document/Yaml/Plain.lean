/-!
# What a bare scalar is

The patterns that tell whether a bare scalar is nothing, a truth value, a number, a moment, or one of
the two keys with a meaning of their own. The marks of anchors, aliases and tags are none of these, and
mean nothing as scalars.
-/

namespace ChangelogViews.Yaml

/-- The tags that have a constructor. -/
inductive Tag where
  | null
  | bool
  | int
  | float
  | binary
  | timestamp
  | omap
  | pairs
  | set
  | str
  | seq
  | map
  | merge
  | value
  | other
  deriving DecidableEq, Repr

namespace Tag

def names : List (String × Tag) :=
  [("null", null), ("bool", bool), ("int", int), ("float", float), ("binary", binary),
   ("timestamp", timestamp), ("omap", omap), ("pairs", pairs), ("set", set), ("str", str),
   ("seq", seq), ("map", map), ("merge", merge), ("value", value)]

def ofAddress (uri : String) : Tag :=
  match names.find? fun (name, _) => "tag:yaml.org,2002:" ++ name == uri with
  | some (_, tag) => tag
  | none => other

end Tag

/-- A digit or an underscore, which may stand between digits. -/
def isDigitOrLow (c : Char) : Bool := c.isDigit || c == '_'

def dropSign : List Char → List Char
  | '+' :: rest => rest
  | '-' :: rest => rest
  | cs => cs

/-- Parts of a number in base sixty, each with a colon in front and one or two digits. Behind them is
the end, or a point and its digits if `withPoint` says so. -/
def sixtieths (withPoint : Bool) : List Char → Bool
  | [] => !withPoint
  | '.' :: rest => withPoint && rest.all isDigitOrLow
  | ':' :: a :: b :: rest =>
    if b.isDigit then '0' ≤ a && a ≤ '5' && sixtieths withPoint rest
    else a.isDigit && sixtieths withPoint (b :: rest)
  | [':', a] => a.isDigit && !withPoint
  | _ => false

/-- At least one part of a number in base sixty. -/
def someSixtieths (withPoint : Bool) (cs : List Char) : Bool :=
  cs.head? = some ':' && sixtieths withPoint cs

/-- Digits in some base, with underscores between them. -/
def allDigits (isDigit : Char → Bool) (cs : List Char) : Bool :=
  !cs.isEmpty && cs.all fun c => isDigit c || c == '_'

def isHex (c : Char) : Bool := c.isDigit || ('a' ≤ c && c ≤ 'f') || ('A' ≤ c && c ≤ 'F')

def isOctal (c : Char) : Bool := '0' ≤ c && c ≤ '7'

/-- A scalar that resolves to a whole number: in base two, eight, ten, sixteen or sixty. -/
def looksInt (cs : List Char) : Bool :=
  match dropSign cs with
  | '0' :: 'b' :: digits => allDigits (fun c => c == '0' || c == '1') digits
  | '0' :: 'x' :: digits => allDigits isHex digits
  | ['0'] => true
  | '0' :: digits => allDigits isOctal digits
  | first :: rest =>
    first.isDigit &&
      (rest.all isDigitOrLow || someSixtieths false (rest.dropWhile isDigitOrLow))
  | [] => false

/-- Nothing, or an exponent with its sign. -/
def isExponent : List Char → Bool
  | [] => true
  | e :: sign :: digits =>
    (e == 'e' || e == 'E') && (sign == '+' || sign == '-') && !digits.isEmpty &&
      digits.all Char.isDigit
  | _ => false

/-- A scalar that resolves to a floating-point number. -/
def looksFloat (cs : List Char) : Bool :=
  let unsigned := dropSign cs
  match unsigned with
  | '.' :: word =>
    [['i', 'n', 'f'], ['I', 'n', 'f'], ['I', 'N', 'F']].contains word
      || (unsigned.length = cs.length &&
        ([['n', 'a', 'n'], ['N', 'a', 'N'], ['N', 'A', 'N']].contains word
          || (match word with
            | first :: rest => first.isDigit && isExponent (rest.dropWhile isDigitOrLow)
            | [] => false)))
  | first :: rest =>
    let behind := rest.dropWhile isDigitOrLow
    first.isDigit &&
      match behind with
      | '.' :: fraction => isExponent (fraction.dropWhile isDigitOrLow)
      | _ => someSixtieths true behind
  | [] => false

def oneOrTwo : List Char → Option (Nat × List Char)
  | a :: b :: rest =>
    if a.isDigit && b.isDigit then
      some ((a.toNat - '0'.toNat) * 10 + (b.toNat - '0'.toNat), rest)
    else if a.isDigit then some (a.toNat - '0'.toNat, b :: rest)
    else none
  | [a] => if a.isDigit then some (a.toNat - '0'.toNat, []) else none
  | [] => none

def two : List Char → Option (Nat × List Char)
  | a :: b :: rest =>
    if a.isDigit && b.isDigit then
      some ((a.toNat - '0'.toNat) * 10 + (b.toNat - '0'.toNat), rest)
    else none
  | _ => none

def expect (ch : Char) : List Char → Option (List Char)
  | c :: rest => if c = ch then some rest else none
  | [] => none

/-- A day, and how many digits its month and day were written with. -/
structure Day where
  year : Nat
  month : Nat
  day : Nat
  full : Bool

/-- A time of day, and its offset in minutes if one is given. -/
structure Clock where
  hour : Nat
  minute : Nat
  second : Nat
  micros : Nat
  ahead : Option Int

def dayAt (cs : List Char) : Option (Day × List Char) := do
  let (century, rest) ← two cs
  let (year, rest) ← two rest
  let (month, behindMonth) ← oneOrTwo (← expect '-' rest)
  let (day, behindDay) ← oneOrTwo (← expect '-' behindMonth)
  let full := cs.length = behindDay.length + 10
  return (⟨century * 100 + year, month, day, full⟩, behindDay)

def isGap (c : Char) : Bool := c == ' ' || c == '\t'

/-- The offset behind a time of day: nothing, the letter Z, or a sign with hours and minutes. -/
def zone (cs : List Char) : Option (Option Int) :=
  match cs with
  | [] => some none
  | _ =>
    match cs.dropWhile isGap with
    | ['Z'] => some (some 0)
    | sign :: rest => do
      let way : Int ← if sign == '+' then some 1 else if sign == '-' then some (-1) else none
      match ← oneOrTwo rest with
      | (hours, []) => return some (way * (hours * 60))
      | (hours, ':' :: rest) =>
        match ← two rest with
        | (minutes, []) => return some (way * (hours * 60 + minutes))
        | _ => none
      | _ => none
    | [] => none

def millionths (fraction : List Char) : Nat :=
  ((fraction ++ List.replicate 6 '0').take 6).foldl (fun n c => n * 10 + (c.toNat - '0'.toNat)) 0

def clockAt (cs : List Char) : Option Clock := do
  let rest ← match cs with
    | 'T' :: rest => some rest
    | 't' :: rest => some rest
    | c :: rest => if isGap c then some (rest.dropWhile isGap) else none
    | [] => none
  let (hour, rest) ← oneOrTwo rest
  let (minute, rest) ← two (← expect ':' rest)
  let (second, rest) ← two (← expect ':' rest)
  let (fraction, rest) := match rest with
    | '.' :: rest => (rest.takeWhile Char.isDigit, rest.dropWhile Char.isDigit)
    | rest => ([], rest)
  return ⟨hour, minute, second, millionths fraction, ← zone rest⟩

def moment? (cs : List Char) : Option (Day × Option Clock) := do
  let (day, rest) ← dayAt cs
  if rest.isEmpty then return (day, none)
  return (day, some (← clockAt rest))

/-- A scalar that resolves to a timestamp. A day alone needs all its digits. -/
def looksMoment (cs : List Char) : Bool :=
  match moment? cs with
  | some (day, none) => day.full
  | some (_, some _) => true
  | none => false

def truthWords : List String :=
  ["yes", "Yes", "YES", "no", "No", "NO", "true", "True", "TRUE", "false", "False", "FALSE",
   "on", "On", "ON", "off", "Off", "OFF"]

def nullWords : List String := ["~", "null", "Null", "NULL", ""]

/-- The text before one final line feed. -/
def beforeFeed (s : String) : String :=
  match s.toList.reverse with
  | '\n' :: rest => String.ofList rest.reverse
  | _ => s

/-- The tag that a plain scalar resolves to. -/
def bareTag (written : String) : Tag :=
  let s := beforeFeed written
  let cs := s.toList
  if truthWords.contains s then .bool
  else if looksFloat cs then .float
  else if looksInt cs then .int
  else if s = "<<" then .merge
  else if nullWords.contains s && (written = "" || s ≠ "") then .null
  else if looksMoment cs then .timestamp
  else if s = "=" then .value
  else if ["!", "&", "*"].contains s then .other
  else .str

end ChangelogViews.Yaml
