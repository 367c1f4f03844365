import ChangelogViews.Text.Encoding.Fault

/-!
# Reading in steps

An encoding whose characters take different numbers of bytes is read in steps. What a step reads may
depend on what was read before.
-/

namespace ChangelogViews.Text.Eastern

/-- What is in front of some bytes. -/
inductive Step where
  /-- So many bytes write characters, or none at all. -/
  | read (cs : List Char) (length : Nat)
  /-- So many bytes write nothing. -/
  | illegal (length : Nat)
  | cut
  /-- The bytes ask for what the encoding does not have. -/
  | stuck
  deriving DecidableEq, Repr

namespace Step

/-- Some bytes that write one character, or nothing, where one byte tells that. -/
def char (c? : Option Char) (length : Nat) : Step :=
  match c? with
  | some c => .read [c] length
  | none => .illegal 1

def plain (byte : Nat) : Step := .read [Char.ofNat byte] 1

/-- Characters of ASCII as they are, and all others by two bytes. -/
def double (char? : Nat → Nat → Option Char) : List Nat → Step
  | [] => .cut
  | first :: rest =>
    if first < 0x80 then plain first
    else
      match rest with
      | [] => .cut
      | second :: _ => char (char? first second) 2

end Step

def sight : Nat := 24

/-- The characters of bytes from a position on. A step reads at least one byte. -/
def decodeSteps {σ : Type} (codec : String) (step : σ → List Nat → σ × Step) (state : σ)
    (position : Nat) (bytes : List UInt8) : Except EncodingFault (List Char) :=
  match bytes with
  | [] => .ok []
  | first :: rest =>
    match step state (((first :: rest).take sight).map UInt8.toNat) with
    | (state, .read cs length) => do
      let tail ← decodeSteps codec step state (position + max length 1) (rest.drop (length - 1))
      return cs ++ tail
    | (_, .illegal length) =>
      .error (.undecodable codec position ((first :: rest).take length)
        "illegal multibyte sequence")
    | (_, .stuck) => .error .stuck
    | (_, .cut) =>
      .error (.undecodable codec position (first :: rest) "incomplete multibyte sequence")
termination_by bytes.length
decreasing_by simp only [List.length_cons, List.length_drop]; omega

end ChangelogViews.Text.Eastern
