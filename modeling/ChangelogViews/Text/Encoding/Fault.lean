import ChangelogViews.Text.Utf8

/-!
# What keeps bytes from being text

Every encoding tells the first place that it cannot read in the same words, and some tell more.
-/

namespace ChangelogViews.Text

/-- What is wrong with the numbers of Punycode. -/
inductive PunycodeFault where
  | cutNumber
  | badDigit (c : Char)
  | badCode (code : Nat)
  deriving DecidableEq, Repr

def PunycodeFault.message : PunycodeFault → String
  | .cutNumber => "incomplete punicode string"
  | .badDigit c => s!"Invalid extended code point '{c}'"
  | .badCode code => s!"Invalid character U+{String.ofList (Nat.toDigits 16 code)}"

/-- What is wrong with a label in the name of a host. -/
inductive LabelFault where
  | punycode (fault : PunycodeFault)
  | length
  | notWritten (label written : String)
  deriving DecidableEq, Repr

def LabelFault.message : LabelFault → String
  | .punycode fault => s!"decoding with 'punycode' codec failed (UnicodeError: {fault.message})"
  | .length => "label empty or too long"
  | .notWritten label written =>
    s!"('IDNA does not round-trip', b{quoted label}, b{quoted written})"

/-- Why bytes are no text in an encoding. -/
inductive EncodingFault where
  | utf8 (fault : Utf8Fault)
  /-- The encoding gives no meaning to the bytes from position `start` on. -/
  | undecodable (codec : String) (start : Nat) (bytes : List UInt8) (reason : String)
  /-- The mark is missing that tells the order of bytes. -/
  | unmarked (family : String)
  | unreadable
  /-- The bytes ask for a set of characters that the encoding cannot read them by. -/
  | stuck
  | punycode (fault : PunycodeFault)
  | label (fault : LabelFault)
  deriving DecidableEq, Repr

def EncodingFault.message : EncodingFault → String
  | .utf8 fault => fault.message
  | .undecodable codec start bytes reason => Text.undecodable codec start bytes reason
  | .unmarked family => s!"{family} stream does not start with BOM"
  | .unreadable => "undefined encoding"
  | .stuck => "internal codec error"
  | .punycode fault => fault.message
  | .label fault => fault.message

end ChangelogViews.Text
