import ChangelogViews.Document.Value
import ChangelogViews.Text.Digits
import ChangelogViews.Text.Lines

/-!
# JSON

Reading JSON text in two steps. The text is cut into tokens, the last of which is the end of the
text or the first place where no token begins; then the tokens drive a machine whose stack holds
the arrays and objects that are still open. So the first fault from the left is the one reported,
with the place where the reader stood.
-/

namespace ChangelogViews.Json

/-- Why a text is not read as JSON. -/
inductive Reason where
  | byteOrderMark
  | valueExpected
  | nameExpected
  | colonExpected
  | commaExpected
  | extraData
  | unterminatedString
  | controlCharacter
  | badEscape
  | badCodePoint
  /-- A whole number with more digits than are read. -/
  | tooManyDigits
  /-- More arrays and objects inside each other than are read, the innermost of which is an array or
  an object. -/
  | tooDeep (isArray : Bool)
  deriving DecidableEq, Repr

def Reason.message : Reason → String
  | .byteOrderMark => "Unexpected UTF-8 BOM (decode using utf-8-sig)"
  | .valueExpected => "Expecting value"
  | .nameExpected => "Expecting property name enclosed in double quotes"
  | .colonExpected => "Expecting ':' delimiter"
  | .commaExpected => "Expecting ',' delimiter"
  | .extraData => "Extra data"
  | .unterminatedString => "Unterminated string starting at"
  | .controlCharacter => "Invalid control character at"
  | .badEscape => "Invalid \\escape"
  | .badCodePoint => "Invalid \\uXXXX escape"
  | .tooManyDigits => omittedDetails
  | .tooDeep true =>
    "maximum recursion depth exceeded while decoding a JSON array from a unicode string"
  | .tooDeep false =>
    "maximum recursion depth exceeded while decoding a JSON object from a unicode string"

def Reason.hasPlace : Reason → Bool
  | .tooManyDigits => false
  | .tooDeep _ => false
  | _ => true

/-- A reason and the number of characters before the place of the fault. -/
structure Fault where
  reason : Reason
  position : Nat
  deriving DecidableEq, Repr

/-- The message of a fault in `text`, with its place also by line and column. -/
def Fault.message (text : List Char) (fault : Fault) : String :=
  if fault.reason.hasPlace then
    let before := text.take fault.position
    let line := before.count '\n' + 1
    let column := (before.reverse.takeWhile (· != '\n')).length + 1
    s!"{fault.reason.message}: line {line} column {column} (char {fault.position})"
  else fault.reason.message

/-- The words of JSON. An unreadable place ends the tokens. -/
inductive Token where
  | openArray
  | closeArray
  | openObject
  | closeObject
  | comma
  | colon
  | string (s : LooseText)
  | scalar (v : Value)
  | unreadable (isString : Bool) (fault : Fault)
  | finish

def hexValue? (c : Char) : Option Nat :=
  if '0' ≤ c ∧ c ≤ '9' then some (c.toNat - '0'.toNat)
  else if 'a' ≤ c ∧ c ≤ 'f' then some (c.toNat - 'a'.toNat + 10)
  else if 'A' ≤ c ∧ c ≤ 'F' then some (c.toNat - 'A'.toNat + 10)
  else none

def hexNumber? (digits : List Char) : Option Nat :=
  digits.foldlM (fun n c => (hexValue? c).map (n * 16 + ·)) 0

/-- What the character after a backslash stands for. -/
def escaped? : Char → Option Char
  | '"' => some '"'
  | '\\' => some '\\'
  | '/' => some '/'
  | 'b' => some '\x08'
  | 'f' => some '\x0c'
  | 'n' => some '\n'
  | 'r' => some '\r'
  | 't' => some '\t'
  | _ => none

/-- The high surrogate that a code point stands for. -/
def firstHalf? (code : Nat) : Option Half := (Half.ofCode? code).filter Half.isFirst

def withSign (sign : Sign) (r : Except Fault (List Sign × Nat)) : Except Fault (List Sign × Nat) :=
  r.map fun (signs, after) => (sign :: signs, after)

/-- The digits of a `\u` escape at the front that has a character behind it: the number, or `none` in place of
it if a digit is bad. -/
def nextEscape? : List Char → Option (Option Nat)
  | '\\' :: 'u' :: a :: b :: c :: d :: _ :: _ => some (hexNumber? [a, b, c, d])
  | _ => none

/-- The rest of a string that began at `start`, read from `position` on, and the position after its closing
quote. A `\u` escape needs one more character behind its digits. Two escapes that write a pair of surrogates
write its character. -/
def stringFrom (start position : Nat) : List Char → Except Fault (List Sign × Nat)
  | [] => .error ⟨.unterminatedString, start⟩
  | '"' :: _ => .ok ([], position + 1)
  | '\\' :: 'u' :: a :: b :: c :: d :: next :: rest =>
    match hexNumber? [a, b, c, d] with
    | none => .error ⟨.badCodePoint, position + 1⟩
    | some n =>
      match firstHalf? n, nextEscape? (next :: rest) with
      | some _, some none => .error ⟨.badCodePoint, position + 7⟩
      | some first, some (some m) =>
        match (Half.ofCode? m).bind first.pair? with
        | some pair => withSign (.char pair) (stringFrom start (position + 12) (rest.drop 5))
        | none => withSign (.half first) (stringFrom start (position + 6) (next :: rest))
      | _, _ => withSign (.ofCode n) (stringFrom start (position + 6) (next :: rest))
  | '\\' :: 'u' :: _ => .error ⟨.badCodePoint, position + 1⟩
  | ['\\'] => .error ⟨.unterminatedString, start⟩
  | '\\' :: c :: rest =>
    match escaped? c with
    | none => .error ⟨.badEscape, position⟩
    | some e => withSign (.char e) (stringFrom start (position + 2) rest)
  | c :: rest =>
    if c.toNat < 0x20 then .error ⟨.controlCharacter, position⟩
    else withSign (.char c) (stringFrom start (position + 1) rest)
  termination_by cs => cs.length

def digitCount (cs : List Char) : Nat := (cs.takeWhile Char.isDigit).length

/-- The length of a fraction at the front: a point and at least one digit. -/
def fractionLength : List Char → Nat
  | '.' :: rest => if digitCount rest = 0 then 0 else 1 + digitCount rest
  | _ => 0

def signLength : List Char → Nat
  | '+' :: _ => 1
  | '-' :: _ => 1
  | _ => 0

/-- The length of an exponent at the front: its letter, a sign or none, and at least one digit. -/
def exponentLength : List Char → Nat
  | c :: rest =>
    let sign := signLength rest
    let digits := digitCount (rest.drop sign)
    if (c = 'e' ∨ c = 'E') ∧ digits ≠ 0 then 1 + sign + digits else 0
  | [] => 0

/-- The length of a whole number at the front: no leading zero, a minus sign or none. -/
def wholeLength (cs : List Char) : Nat :=
  let sign := match cs with
    | '-' :: _ => 1
    | _ => 0
  match cs.drop sign with
  | '0' :: _ => sign + 1
  | rest => if digitCount rest = 0 then 0 else sign + digitCount rest

def wholeValue : List Char → Int
  | '-' :: digits => -(digits.foldl (fun n c => n * 10 + (c.toNat - '0'.toNat)) 0 : Nat)
  | digits => (digits.foldl (fun n c => n * 10 + (c.toNat - '0'.toNat)) 0 : Nat)

def words : List (List Char × Value) :=
  [("null".toList, .null), ("true".toList, .bool true), ("false".toList, .bool false),
   ("NaN".toList, .real "nan"), ("Infinity".toList, .real "inf"), ("-Infinity".toList, .real "-inf")]

/-- The whole number of some digits, with a sign or without, if there are not too many. -/
def whole? (cs : List Char) : Option Int :=
  if Text.mostDigits < cs.countP Char.isDigit then none else some (wholeValue cs)

/-- A word or number at the front with its length, or why there is none. -/
def scalarAt (cs : List Char) : Except Reason (Value × Nat) :=
  match words.find? (·.1.isPrefixOf cs) with
  | some (word, v) => .ok (v, word.length)
  | none =>
    let whole := wholeLength cs
    let fraction := fractionLength (cs.drop whole)
    let exponent := exponentLength (cs.drop (whole + fraction))
    if whole = 0 then .error .valueExpected
    else if fraction + exponent = 0 then
      match whole? (cs.take whole) with
      | some n => .ok (.int n, whole)
      | none => .error .tooManyDigits
    else
      let size := whole + fraction + exponent
      .ok (.real (String.ofList (cs.take size)), size)

def isSpace (c : Char) : Bool := c == ' ' || c == '\t' || c == '\n' || c == '\r'

def mark? : Char → Option Token
  | '[' => some .openArray
  | ']' => some .closeArray
  | '\x7b' => some .openObject
  | '\x7d' => some .closeObject
  | ',' => some .comma
  | ':' => some .colon
  | _ => none

/-- The tokens of the text from a position on, each with the position where it begins. -/
def tokensFrom (position : Nat) : List Char → List (Token × Nat)
  | [] => [(.finish, position)]
  | c :: rest =>
    if isSpace c then tokensFrom (position + 1) rest
    else match mark? c with
      | some token => (token, position) :: tokensFrom (position + 1) rest
      | none =>
        if c = '"' then
          match stringFrom position (position + 1) rest with
          | .error fault => [(.unreadable true fault, position)]
          | .ok (s, after) =>
            (.string (.ofSigns s), position) ::
              tokensFrom after (rest.drop (after - (position + 1)))
        else match scalarAt (c :: rest) with
          | .ok (v, size) =>
            (.scalar v, position) :: tokensFrom (position + size) (rest.drop (size - 1))
          | .error reason => [(.unreadable false ⟨reason, position⟩, position)]
  termination_by cs => cs.length
  decreasing_by all_goals simp only [List.length_cons, List.length_drop]; omega

/-- An array that is still open with its finished items in reverse order, or an object with its
finished members and the name whose value is being read. -/
inductive Frame where
  | array (done : List Value)
  | object (done : List (String × Value)) (name : String)

/-- What the machine can take next. -/
inductive State where
  | value (stack : List Frame)
  | valueOrClose (stack : List Frame)
  | nameOrClose (stack : List Frame)
  | name (done : List (String × Value)) (stack : List Frame)
  | colon (done : List (String × Value)) (name : String) (stack : List Frame)
  | more (v : Value) (frame : Frame) (stack : List Frame)
  | complete (v : Value)

def State.finish (v : Value) : List Frame → State
  | [] => .complete v
  | frame :: stack => .more v frame stack

/-- The most arrays and objects inside each other. -/
def mostOpen : Nat := 990

/-- A state with one more open array or object, if there may be one. -/
def opened (stack : List Frame) (isArray : Bool) (position : Nat) (state : State) :
    Except Fault State :=
  if mostOpen ≤ stack.length then .error ⟨.tooDeep isArray, position⟩ else .ok state

/-- A token where a value has to begin. -/
def beginValue (stack : List Frame) (token : Token) (position : Nat) : Except Fault State :=
  match token with
  | .openArray => opened stack true position (.valueOrClose stack)
  | .openObject => opened stack false position (.nameOrClose stack)
  | .string s => .ok (.finish (.text s) stack)
  | .scalar v => .ok (.finish v stack)
  | .unreadable _ fault => .error fault
  | _ => .error ⟨.valueExpected, position⟩

def beginMember (done : List (String × Value)) (stack : List Frame) (token : Token)
    (position : Nat) : Except Fault State :=
  match token with
  | .string s => .ok (.colon done s.shown stack)
  | .unreadable true fault => .error fault
  | _ => .error ⟨.nameExpected, position⟩

/-- The machine takes one token. -/
def step (state : State) : Token × Nat → Except Fault State
  | (token, position) =>
    match state with
    | .value stack => beginValue stack token position
    | .valueOrClose stack =>
      match token with
      | .closeArray => .ok (.finish (.list []) stack)
      | _ => beginValue (.array [] :: stack) token position
    | .nameOrClose stack =>
      match token with
      | .closeObject => .ok (.finish (.object []) stack)
      | _ => beginMember [] stack token position
    | .name done stack => beginMember done stack token position
    | .colon done name stack =>
      match token with
      | .colon => .ok (.value (.object done name :: stack))
      | _ => .error ⟨.colonExpected, position⟩
    | .more v (.array done) stack =>
      match token with
      | .closeArray => .ok (.finish (.list (v :: done).reverse) stack)
      | .comma => .ok (.value (.array (v :: done) :: stack))
      | _ => .error ⟨.commaExpected, position⟩
    | .more v (.object done name) stack =>
      let members := setMember done name v
      match token with
      | .closeObject => .ok (.finish (.object members) stack)
      | .comma => .ok (.name members stack)
      | _ => .error ⟨.commaExpected, position⟩
    | .complete v =>
      match token with
      | .finish => .ok (.complete v)
      | _ => .error ⟨.extraData, position⟩

def runTokens (state : State) : List (Token × Nat) → Except Fault Value
  | [] =>
    match state with
    | .complete v => .ok v
    | _ => .error ⟨.valueExpected, 0⟩
  | token :: rest => do runTokens (← step state token) rest

def read (text : List Char) : Except Fault Value :=
  match text with
  | '\ufeff' :: _ => .error ⟨.byteOrderMark, 0⟩
  | _ => runTokens (.value []) (tokensFrom 0 text)

end ChangelogViews.Json
