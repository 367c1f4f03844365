import ChangelogViews.Text.Blank
import ChangelogViews.Text.Lowercase
import ChangelogViews.Text.Quoted

/-!
# Loose texts

A character beyond the first plane may be written as a pair of surrogates. The text of a document may hold
lone surrogates, and two that make a pair but were written apart. It keeps them as they are: a message
tells them from characters, and only what goes outside joins them.
-/

namespace ChangelogViews

/-- A surrogate. All high ones come before all low ones. -/
abbrev Half := Fin 0x800

namespace Half

def code (h : Half) : Nat := 0xd800 + h.val

def ofCode? (code : Nat) : Option Half :=
  if h : 0xd800 ≤ code ∧ code < 0xe000 then some ⟨code - 0xd800, by omega⟩ else none

/-- A high surrogate. -/
def isFirst (h : Half) : Bool := Nat.blt h.val 0x400

/-- The character of a pair of surrogates. -/
def pair? (first second : Half) : Option Char :=
  if first.isFirst && !second.isFirst then
    some (Char.ofNat (0x10000 + first.val * 0x400 + (second.val - 0x400)))
  else none

end Half

/-- What stands for a surrogate that belongs to no pair. -/
def loneHalf : Char := Char.ofNat 0xfffd

/-- A character, or a surrogate. -/
inductive Sign where
  | char (c : Char)
  | half (h : Half)
  deriving DecidableEq, Repr

namespace Sign

def ofCode (code : Nat) : Sign :=
  match Half.ofCode? code with
  | some h => .half h
  | none => .char (Char.ofNat code)

def char? : Sign → Option Char
  | .char c => some c
  | .half _ => none

/-- A sign between the marks `mark`. -/
def quoted (mark : Char) : Sign → List Char
  | .char c => Text.shownChar mark c
  | .half h => '\\' :: 'u' :: Text.hexDigits 4 h.code

def isBlank : Sign → Bool
  | .char c => Text.isBlank c
  | .half _ => false

end Sign

/-- A text that may hold surrogates: what is before the first of them, and each of them with what is behind
it. -/
structure LooseText where
  start : String
  later : List (Half × String)
  deriving DecidableEq, Inhabited, Repr

namespace LooseText

def ofString (s : String) : LooseText := ⟨s, []⟩

instance : Coe String LooseText := ⟨ofString⟩

def signs (t : LooseText) : List Sign :=
  t.start.toList.map .char ++ t.later.flatMap fun (h, s) => .half h :: s.toList.map .char

/-- Signs cut in front of each surrogate. -/
def pieces : List Sign → List Char × List (Half × String)
  | [] => ([], [])
  | .char c :: rest =>
    let (cs, later) := pieces rest
    (c :: cs, later)
  | .half h :: rest =>
    let (cs, later) := pieces rest
    ([], (h, String.ofList cs) :: later)

def ofSigns (signs : List Sign) : LooseText :=
  let (cs, later) := pieces signs
  ⟨String.ofList cs, later⟩

def whole? (t : LooseText) : Option String := if t.later.isEmpty then some t.start else none

/-- The characters of some signs, where pairs of surrogates are joined. -/
def joined : List Sign → List Char
  | [] => []
  | .char c :: rest => c :: joined rest
  | .half first :: .half second :: rest =>
    match first.pair? second with
    | some c => c :: joined rest
    | none => loneHalf :: joined (.half second :: rest)
  | .half _ :: rest => loneHalf :: joined rest

/-- The text as it goes outside, where pairs of surrogates are joined. -/
def shown (t : LooseText) : String := t.whole?.getD (String.ofList (joined t.signs))

/-- The surrogates of some pieces up to the first character. -/
def halvesInRow : List (Half × String) → List Half
  | [] => []
  | (h, s) :: rest => if s = "" then h :: halvesInRow rest else [h]

def firstHalves (t : LooseText) : List Half := halvesInRow t.later

/-- The text as a message shows it. -/
def quoted (t : LooseText) : String :=
  let mark := Text.markFor (t.signs.filterMap Sign.char?)
  String.ofList (mark :: t.signs.flatMap (Sign.quoted mark) ++ [mark])

def trim (t : LooseText) : LooseText :=
  ofSigns (((t.signs.dropWhile Sign.isBlank).reverse.dropWhile Sign.isBlank).reverse)

/-- The text where everything between surrogates was changed. -/
def mapPieces (f : String → String) (t : LooseText) : LooseText :=
  ⟨f t.start, t.later.map fun (h, s) => (h, f s)⟩

/-- The lower case of a text. A surrogate is no letter, and so ends a word. -/
def lower (t : LooseText) : LooseText := t.mapPieces Text.lower

@[simp] theorem shown_ofString (s : String) : (ofString s).shown = s := rfl

@[simp] theorem whole?_ofString (s : String) : (ofString s).whole? = some s := rfl

@[simp] theorem signs_ofString (s : String) : (ofString s).signs = s.toList.map .char := by
  simp [signs, ofString]

@[simp] theorem quoted_ofString (s : String) : (ofString s).quoted = Text.quoted s := by
  have chars : (s.toList.map Sign.char).filterMap Sign.char? = s.toList := by
    rw [List.filterMap_map]
    exact List.filterMap_some
  simp only [quoted, signs_ofString, chars, List.flatMap_map]
  rfl

end LooseText
end ChangelogViews
