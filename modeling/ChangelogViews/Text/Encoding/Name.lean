import ChangelogViews.Text.Lowercase

/-!
# Names of encodings

An encoding has a name of its own and often goes by others. Names are known in any case and with any
marks between their words.
-/

namespace ChangelogViews.Text

/-- What an encoding is called, in small letters and with single underscores between words. -/
structure EncodingName where
  own : String
  others : List String := []
  deriving DecidableEq, Repr

namespace EncodingName

def isWordChar (c : Char) : Bool := c.isAlphanum || c == '.'

/-- A name in small letters and with single underscores between its words. -/
def normal (name : String) : String :=
  let words := name.toList.splitBy fun c d => isWordChar c == isWordChar d
  "_".intercalate ((words.filter (·.any isWordChar)).map fun word => lower (String.ofList word))

def withoutDots (name : String) : String :=
  String.ofList (name.toList.map fun c => if c = '.' then '_' else c)

/-- An encoding goes by a name, which its own name has to match exactly. -/
def fits (n : EncodingName) (name : String) : Bool :=
  let name := normal name
  name == n.own || n.others.contains name || n.others.contains (withoutDots name)

end EncodingName
end ChangelogViews.Text
