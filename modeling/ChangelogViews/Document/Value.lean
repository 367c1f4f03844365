import ChangelogViews.Text.Loose

/-!
# Documents

The value of a document in a data format, before anything is known of its meaning. Numbers with a
fraction, binary data and moments in time are only told apart from the rest, so they keep the
text or the bytes that they were written with.
-/

namespace ChangelogViews

/-- A value read from a document. An object keeps its members in order, each name once. Where an object
would be a part of itself it is cut short by a cycle. -/
inductive Value where
  | null
  | bool (b : Bool)
  | int (n : Int)
  | real (written : String)
  | text (s : LooseText)
  | bytes (data : List UInt8)
  | moment (written : String)
  | list (items : List Value)
  | bag (items : List Value)
  | object (members : List (String × Value))
  | cycle
  deriving Inhabited, Repr, BEq

/-- The members after `name` was given the value `v`, in place if it was there. -/
def setMember {α : Type} (members : List (String × α)) (name : String) (v : α) :
    List (String × α) :=
  match members with
  | [] => [(name, v)]
  | (other, w) :: rest =>
    if other = name then (name, v) :: rest else (other, w) :: setMember rest name v

def member? {α : Type} (members : List (String × α)) (name : String) : Option α :=
  (members.find? (·.1 == name)).map (·.2)

namespace Value

/-- A member of an object, `none` for any other value. -/
def get? (v : Value) (name : String) : Option Value :=
  match v with
  | .object members => member? members name
  | _ => none

def text? : Value → Option String
  | .text s => some s.shown
  | _ => none

mutual

/-- A value as a message shows it, texts in quotation marks. -/
def shown : Value → String
  | .null => "None"
  | .bool true => "True"
  | .bool false => "False"
  | .int n => toString n
  | .real written => written
  | .text s => s.quoted
  | .bytes data => "b" ++ Text.quoted (String.ofList (data.map fun b => Char.ofNat b.toNat))
  | .moment written => written
  | .list items => "[" ++ ", ".intercalate (shownItems items) ++ "]"
  | .bag items => "\x7b" ++ ", ".intercalate (shownItems items) ++ "\x7d"
  | .object members => "\x7b" ++ ", ".intercalate (shownMembers members) ++ "\x7d"
  | .cycle => "\x7b...\x7d"

def shownItems : List Value → List String
  | [] => []
  | item :: rest => shown item :: shownItems rest

def shownMembers : List (String × Value) → List String
  | [] => []
  | (name, v) :: rest => (Text.quoted name ++ ": " ++ shown v) :: shownMembers rest

end

def kindName : Value → String
  | .null => "NoneType"
  | .bool _ => "bool"
  | .int _ => "int"
  | .real _ => "float"
  | .text _ => "str"
  | .bytes _ => "bytes"
  | .moment _ => "datetime"
  | .list _ => "list"
  | .bag _ => "set"
  | .object _ => "dict"
  | .cycle => "dict"

def isZero : Value → Bool
  | .int n => n = 0
  | .real written => written = "0.0" || written = "-0.0"
  | _ => false

/-- A value that says yes where a yes or no is asked for: all but nothing, zero and what is empty. -/
def isYes : Value → Bool
  | .null => false
  | .bool b => b
  | .int n => !(int n).isZero
  | .real written => !(real written).isZero
  | .text s => s ≠ .ofString ""
  | .bytes data => !data.isEmpty
  | .list items => !items.isEmpty
  | .bag items => !items.isEmpty
  | .object members => !members.isEmpty
  | .moment _ | .cycle => true

/-- A value as a text of its own: a text is itself, all else is shown. -/
def plain : Value → LooseText
  | .text s => s
  | v => v.shown

end Value
end ChangelogViews
