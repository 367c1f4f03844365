import ChangelogViews.Text.Encoding.Punycode

/-!
# Names of hosts

The labels of a host's name have dots between them. They are written in ASCII, where a label with other
characters is in Punycode behind a mark.
-/

namespace ChangelogViews.Text.HostName

/-- What a label in Punycode begins with. -/
def mark : List Char := ['x', 'n', '-', '-']

def isBadLength (n : Nat) : Bool := n = 0 || 64 ≤ n

/-- The characters of a label behind its mark. Those of ASCII alone would not have been written so. -/
def decodeMarked (label : List Char) : Except LabelFault (List Char) := do
  let cs ← (Punycode.decodeChars (label.drop mark.length)).mapError .punycode
  if cs.all (·.toNat < 0x80) then
    if isBadLength cs.length then throw .length
    else throw (.notWritten (String.ofList label) (String.ofList cs))
  else if isBadLength label.length then throw .length
  else return cs

def decodeLabel (label : List Char) : Except EncodingFault (List Char) :=
  if mark.isPrefixOf label then (decodeMarked label).mapError .label else .ok label

def decodeLabels : List (List Char) → Except EncodingFault (List Char)
  | [] => .ok []
  | [label] => decodeLabel label
  | label :: rest => do
    let cs ← decodeLabel label
    return cs ++ '.' :: (← decodeLabels rest)

def decode (bytes : List UInt8) : Except EncodingFault (List Char) := do
  decodeLabels ((← decodeAscii bytes).splitOn '.')

end ChangelogViews.Text.HostName
