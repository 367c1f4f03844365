/-!
# Floating numbers

Numbers with a point, as sixty-four bits hold them. A finite one is a multiple of the smallest positive
one, its unit, and is kept as that whole number. What a numeral writes, and what comes out of adding or
multiplying, is the nearest such number, and of two that are equally near the even one.
-/

namespace ChangelogViews

/-- A floating-point number of 64 bits, a finite one in units of 2 to the power of -1074. -/
inductive Floating where
  | finite (units : Int)
  | infinite (negative : Bool)
  | undefined
  deriving DecidableEq, Repr

namespace Floating

def one : Nat := Nat.pow 2 1074

def tooMany : Nat := Nat.pow 2 2098

/-- The whole number nearest to a quotient, of two that are equally near the even one. -/
def nearestWhole (num den : Nat) : Nat :=
  let whole := num / den
  let rest := num % den
  if den < 2 * rest || (2 * rest = den && whole % 2 = 1) then whole + 1 else whole

/-- A quotient of units with only its first 53 bits, rounded to the nearest. -/
def nearestUnits (num den : Nat) : Nat :=
  let whole := num / den
  if whole < Nat.pow 2 53 then nearestWhole num den
  else
    let spare := Nat.pow 2 (whole.log2 - 52)
    nearestWhole num (den * spare) * spare

def ofUnits (negative : Bool) (units : Nat) : Floating :=
  if tooMany ≤ units then .infinite negative
  else .finite (if negative then -(units : Int) else units)

/-- The number nearest to a quotient of units. -/
def ofQuotient (negative : Bool) (num den : Nat) : Floating :=
  ofUnits negative (nearestUnits num den)

/-- The number nearest to a whole number, where there is a finite one. -/
def ofWhole? (n : Nat) : Option Floating :=
  match ofQuotient false (n * one) 1 with
  | .infinite _ => none
  | x => some x

/-- The number that digits and an exponent of ten write. -/
def ofDecimal (digits : List Nat) (exponent : Int) : Floating :=
  let m := digits.foldl (fun n d => n * 10 + d) 0
  let size := (digits.dropWhile (· = 0)).length + exponent
  if m = 0 || size < -330 then .finite 0
  else if 310 < size then .infinite false
  else if 0 ≤ exponent then ofQuotient false (m * Nat.pow 10 exponent.toNat * one) 1
  else ofQuotient false (m * one) (Nat.pow 10 (-exponent).toNat)

def neg : Floating → Floating
  | .finite units => .finite (-units)
  | .infinite negative => .infinite !negative
  | .undefined => .undefined

def add : Floating → Floating → Floating
  | .finite a, .finite b => ofQuotient (a + b < 0) (a + b).natAbs 1
  | .infinite a, .infinite b => if a = b then .infinite a else .undefined
  | .undefined, _ => .undefined
  | _, .undefined => .undefined
  | .infinite a, _ => .infinite a
  | _, .infinite b => .infinite b

/-- A number as many times as a positive one says. -/
def times : Floating → Floating → Floating
  | .finite a, .finite b => ofQuotient (a * b < 0) (a * b).natAbs one
  | .undefined, _ => .undefined
  | _, .undefined => .undefined
  | .infinite a, _ => .infinite a
  | _, .infinite b => .infinite b

def digitsAt (cs : List Char) : List Nat × List Char :=
  ((cs.takeWhile Char.isDigit).map fun c => c.toNat - '0'.toNat, cs.dropWhile Char.isDigit)

/-- An exponent of ten, or nothing. -/
def exponent? : List Char → Option Int
  | [] => some 0
  | e :: rest =>
    let (way, rest) : Int × List Char := match rest with
      | '-' :: rest => (-1, rest)
      | '+' :: rest => (1, rest)
      | rest => (1, rest)
    match digitsAt rest with
    | (d :: ds, []) =>
      if e = 'e' || e = 'E' then some (way * ((d :: ds).foldl (fun n d => n * 10 + d) 0 : Nat))
      else none
    | _ => none

def unsigned? (cs : List Char) : Option Floating :=
  let word := String.ofList (cs.map Char.toLower)
  if word = "inf" || word = "infinity" then some (.infinite false)
  else if word = "nan" then some .undefined
  else
    let (whole, behind) := digitsAt cs
    let (fraction, behind) := match behind with
      | '.' :: rest => digitsAt rest
      | _ => ([], behind)
    if whole.isEmpty && fraction.isEmpty then none
    else (exponent? behind).map fun e => ofDecimal (whole ++ fraction) (e - fraction.length)

/-- The number that a numeral writes. -/
def ofNumeral? : List Char → Option Floating
  | '-' :: cs => (unsigned? cs).map neg
  | '+' :: cs => unsigned? cs
  | cs => unsigned? cs

end Floating
end ChangelogViews
